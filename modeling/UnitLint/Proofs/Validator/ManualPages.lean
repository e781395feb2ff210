import UnitLint.Proofs.Text.Runs
import UnitLint.Proofs.Uri.Address
import UnitLint.Proofs.Validator.References

/-!
# References to manual pages

A manual page is referred to by its name, with the number of its section and what qualifies the
number between brackets right behind it, and nothing around them. Without a colon there is no
address, so this is the only form in which an entry without a colon is accepted.
-/

namespace UnitLint.Validator

/-- Whether a character is a letter or a digit of ASCII. -/
def IsAlphanumeric (c : Char) : Prop :=
  'a' ≤ c ∧ c ≤ 'z' ∨ 'A' ≤ c ∧ c ≤ 'Z' ∨ '0' ≤ c ∧ c ≤ '9'

/-- Whether a text can name a manual page. -/
def IsPageName (text : String) : Prop :=
  text ≠ "" ∧ ∀ c ∈ text.toList, IsAlphanumeric c ∨ c ∈ ['_', '.', ':', '@', '+', '-']

/-- Whether a text can tell the section of a manual page: a digit, then letters and digits. -/
def IsPageSection (text : String) : Prop :=
  ∃ number qualifier, text.toList = number :: qualifier ∧ '0' ≤ number ∧ number ≤ '9' ∧
    ∀ c ∈ qualifier, IsAlphanumeric c

/-- Whether a text is the name of a manual page with its section between brackets. -/
def IsPageReference (text : String) : Prop :=
  ∃ name page : String, text = name ++ "(" ++ page ++ ")" ∧ IsPageName name ∧ IsPageSection page

variable {text : String}

theorem isAlphanumeric_iff (c : Char) :
    IsAlphanumeric c ↔ (Uri.isLetter c || Text.isDigit c) = true := by
  simp only [IsAlphanumeric, Uri.isLetter, Text.isDigit, Bool.or_eq_true, Bool.and_eq_true,
    decide_eq_true_eq, or_assoc]

theorem isPageNameChar_iff (c : Char) :
    isPageNameChar c ↔ IsAlphanumeric c ∨ c ∈ ['_', '.', ':', '@', '+', '-'] := by
  have hmarks : "_.:@+-".toList = ['_', '.', ':', '@', '+', '-'] := by decide
  rw [isPageNameChar, Bool.or_eq_true, hmarks, List.contains_iff_mem, isAlphanumeric_iff]

/-- The name is as long as can be, because no bracket is part of one. -/
theorem isManPageReference_iff_exists :
    isManPageReference text ↔ ∃ name number qualifier,
      text.toList = name ++ '(' :: number :: (qualifier ++ [')']) ∧ name ≠ [] ∧
        (∀ c ∈ name, isPageNameChar c) ∧ Text.isDigit number ∧
          ∀ c ∈ qualifier, IsAlphanumeric c := by
  simp only [isAlphanumeric_iff]
  rw [isManPageReference]
  constructor
  · intro h
    split at h
    · next number rest hrest =>
      simp only [Bool.and_eq_true, decide_eq_true_eq] at h
      obtain ⟨⟨hne, hnumber⟩, hend⟩ := h
      obtain ⟨qualifier, hqualifier, -, rfl⟩ := Text.dropWhile_eq_iff.1 hend
      have hchars := List.takeWhile_append_dropWhile (p := isPageNameChar) (l := text.toList)
      rw [hrest] at hchars
      exact ⟨_, number, qualifier, hchars.symm, hne, fun c hc => List.mem_takeWhile_imp hc, hnumber,
        hqualifier⟩
    · cases h
  · rintro ⟨name, number, qualifier, hchars, hne, hname, hnumber, hqualifier⟩
    have hopening : Text.EndsSpan isPageNameChar ('(' :: number :: (qualifier ++ [')'])) :=
      .cons (by decide) _
    have hclosing : Text.EndsSpan (fun c => Uri.isLetter c || Text.isDigit c) [')'] :=
      .cons (by decide) _
    rw [hchars, Text.takeWhile_span hname hopening, Text.dropWhile_span hname hopening]
    simp only [Text.dropWhile_span hqualifier hclosing, hnumber, hne, ne_eq, not_false_eq_true,
      decide_true, Bool.and_true]

theorem isManPageReference_iff : isManPageReference text ↔ IsPageReference text := by
  rw [isManPageReference_iff_exists]
  constructor
  · rintro ⟨name, number, qualifier, hchars, hne, hname, hnumber, hqualifier⟩
    simp only [isPageNameChar_iff] at hname
    rw [Text.isDigit, Bool.and_eq_true, decide_eq_true_eq, decide_eq_true_eq] at hnumber
    refine ⟨String.ofList name, String.ofList (number :: qualifier), ?_, ⟨?_, ?_⟩, number,
      qualifier, String.toList_ofList, hnumber.1, hnumber.2, hqualifier⟩
    · rw [← String.toList_inj, hchars]
      simp
    · rwa [ne_eq, ← String.toList_eq_nil_iff, String.toList_ofList]
    · rwa [String.toList_ofList]
  · rintro ⟨name, page, rfl, ⟨hne, hname⟩, number, qualifier, hpage, hlow, hhigh, hqualifier⟩
    simp only [← isPageNameChar_iff] at hname
    refine ⟨name.toList, number, qualifier, by simp [hpage], mt String.toList_eq_nil_iff.1 hne,
      hname, ?_, hqualifier⟩
    rw [Text.isDigit, decide_eq_true hlow, decide_eq_true hhigh, Bool.and_true]

/-- Without a colon there is no scheme. -/
theorem isDocumentationUri_of_colon_not_mem (h : ':' ∉ text.toList) :
    isDocumentationUri text = false := by
  have hscheme : Uri.schemeOf? text.toList = none := by
    rw [Option.eq_none_iff_forall_ne_some]
    intro scheme hfound
    obtain ⟨rest, hsplit, -⟩ := Uri.schemeOf?_eq_some_iff.1 hfound
    exact h (Uri.colon_mem_of_splitScheme? hsplit)
  rw [isDocumentationUri, hscheme]

theorem isReference_iff_of_colon_not_mem (h : ':' ∉ text.toList) :
    isReference text ↔ IsPageReference text := by
  rw [isReference, isDocumentationUri_of_colon_not_mem h, Bool.false_or, isManPageReference_iff]

theorem subset_of_mem_listEntries {value entry : String} (h : entry ∈ listEntries value) :
    entry.toList ⊆ value.toList := by
  obtain ⟨before, after, hchars, -⟩ := (mem_listEntries.1 h).2
  rw [hchars]
  exact fun c hc => List.mem_append_left _ (List.mem_append_right _ hc)

/-- A list without colons is accepted if it holds references to manual pages only. -/
theorem accepts_iff_of_colon_not_mem (h : ':' ∉ text.toList) :
    documentation.diagnose? text = none ↔ ∀ entry ∈ listEntries text, IsPageReference entry := by
  rw [accepts_documentation_iff]
  refine forall₂_congr fun entry hentry => ?_
  exact isReference_iff_of_colon_not_mem fun hcolon => h (subset_of_mem_listEntries hentry hcolon)

/-- A text refers to a manual page exactly if it is a name with a section between brackets. Without
a colon no text is an address, so such a text by itself is accepted exactly if it has that form, and
a list of them exactly if each of its entries has it. -/
theorem isManPageReference_form (text : String) :
    (isManPageReference text ↔ IsPageReference text) ∧
      (':' ∉ text.toList →
        isDocumentationUri text = false ∧
          (text ≠ "" → (∀ c ∈ text.toList, ¬Text.isBlank c ∧ c ≠ ',') →
            (documentation.diagnose? text = none ↔ IsPageReference text)) ∧
          (documentation.diagnose? text = none ↔
            ∀ entry ∈ listEntries text, IsPageReference entry)) := by
  refine ⟨isManPageReference_iff, fun hcolon => ⟨isDocumentationUri_of_colon_not_mem hcolon, ?_,
    accepts_iff_of_colon_not_mem hcolon⟩⟩
  intro hne hplain
  have hentry : ∀ c ∈ text.toList, isSeparator c = false := by
    intro c hc
    rw [isSeparator, Bool.or_eq_false_iff, beq_eq_false_iff_ne, ← Bool.not_eq_true]
    exact hplain c hc
  rw [accepts_entry_iff hne hentry, isReference_iff_of_colon_not_mem hcolon]

/-- A name with marks and a qualified section, by itself and in a list, and what a control character
behind the bracket makes of it. -/
theorem isManPageReference_form_control :
    ':' ∉ "EVP_md5@x.+-(3ossl)".toList ∧
      (∀ c ∈ "EVP_md5@x.+-(3ossl)".toList, ¬Text.isBlank c ∧ c ≠ ',') ∧
      documentation.diagnose? "EVP_md5@x.+-(3ossl)" = none ∧
      IsPageReference "EVP_md5@x.+-(3ossl)" ∧
      ':' ∉ "ls(1)\x01\n".toList ∧ isDocumentationUri "ls(1)\x01\n" = false ∧
      documentation.diagnose? "ls(1)\x01\n" ≠ none := by
  have hcolon : ':' ∉ "EVP_md5@x.+-(3ossl)".toList := by decide +kernel
  have hplain : ∀ c ∈ "EVP_md5@x.+-(3ossl)".toList, ¬Text.isBlank c ∧ c ≠ ',' :=
    List.all_iff_forall_prop.1 (by decide +kernel)
  have hform : IsPageReference "EVP_md5@x.+-(3ossl)" :=
    (isManPageReference_form _).1.1 (by decide +kernel)
  have hcontrol : ':' ∉ "ls(1)\x01\n".toList := by decide +kernel
  refine ⟨hcolon, hplain, ?_, hform, hcontrol, ((isManPageReference_form _).2 hcontrol).1, ?_⟩
  · exact (((isManPageReference_form _).2 hcolon).2.1 (by decide) hplain).2 hform
  · rw [ne_eq, ((isManPageReference_form _).2 hcontrol).2.2]
    have hentries : listEntries "ls(1)\x01\n" = ["ls(1)\x01"] := by decide +kernel
    rw [hentries, List.forall_mem_singleton, ← (isManPageReference_form _).1]
    decide +kernel

end UnitLint.Validator
