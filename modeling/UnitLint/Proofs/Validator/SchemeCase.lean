import Mathlib.Data.List.Forall2
import UnitLint.Proofs.Validator.ManualPages
import UnitLint.Proofs.Validator.PlainReferences
import UnitLint.Validator.Boolean

/-!
# Case of schemes

In front of the first colon of a text, case does not matter. With small letters in the place of
capital ones an address keeps its scheme, and a manual page is still named, because the kinds of
characters that names are told by have all letters or none. So texts with the same small letters
there are both accepted or both refused, and so are lists that begin with them.
-/

namespace UnitLint

namespace Uri

theorem charsInFront_map_toLower (cs : List Char) :
    charsInFront (cs.map Char.toLower) = (charsInFront cs).map Char.toLower := by
  have hcontrol : isControlOrSpace ∘ Char.toLower = isControlOrSpace :=
    kind_comp_toLower fun c hc => isControlOrSpace_of_isLetter hc
  have hpassed : (!isPassedOver ·) ∘ Char.toLower = (!isPassedOver ·) :=
    kind_comp_toLower fun c hc => by
      rw [isPassedOver_eq_false (isControlOrSpace_of_isLetter hc)]
  rw [charsInFront, List.dropWhile_map, hcontrol, List.filter_map, hpassed, charsInFront]

/-- Which scheme an address has is told by the small forms of what stands in front of the colon. -/
theorem schemeOf?_recased {front front' : List Char} (h : ':' ∉ front)
    (hcase : front.map Char.toLower = front'.map Char.toLower) (rest : List Char) :
    schemeOf? (front ++ ':' :: rest) = schemeOf? (front' ++ ':' :: rest) := by
  have h' : ':' ∉ front' := by
    rwa [← colon_mem_map_toLower_iff, ← hcase, colon_mem_map_toLower_iff]
  have hcolon : isControlOrSpace ':' = false := by decide
  have hkept := congrArg charsInFront hcase
  rw [charsInFront_map_toLower, charsInFront_map_toLower] at hkept
  have hname := congrArg isSchemeName hkept
  rw [isSchemeName_map_toLower, isSchemeName_map_toLower] at hname
  have hsplit : splitScheme? (addressChars (front ++ ':' :: rest)) =
      splitScheme? (addressChars (front' ++ ':' :: rest)) := by
    rw [addressChars_append_cons hcolon, addressChars_append_cons hcolon,
      splitScheme?_append_colon (mt (charsInFront_subset front ·) h),
      splitScheme?_append_colon (mt (charsInFront_subset front' ·) h'), hname, hkept]
  rw [schemeOf?, hsplit, schemeOf?]

end Uri

namespace Validator

theorem isDocumentationUri_congr {text text' : String}
    (hscheme : Uri.schemeOf? text.toList = Uri.schemeOf? text'.toList)
    (hbehind : Uri.behindColon text.toList = Uri.behindColon text'.toList) :
    isDocumentationUri text = isDocumentationUri text' := by
  rw [Uri.behindColon, Uri.behindColon] at hbehind
  rw [isDocumentationUri, isDocumentationUri, hscheme, hbehind]

/-- Case does not matter to the name of a manual page, nor to its section. -/
theorem isManPageReference_lowerCase (text : String) :
    isManPageReference (lowerCase text) = isManPageReference text := by
  have hname : isPageNameChar ∘ Char.toLower = isPageNameChar :=
    Uri.kind_comp_toLower fun c hc => by rw [isPageNameChar, hc]; rfl
  have hdigit : ∀ c : Char, Text.isDigit c.toLower = Text.isDigit c :=
    congrFun (Uri.kind_comp_toLower fun c hc => Uri.isDigit_of_isLetter hc)
  have hqualifier : (fun c => Uri.isLetter c || Text.isDigit c) ∘ Char.toLower =
      fun c => Uri.isLetter c || Text.isDigit c :=
    Uri.kind_comp_toLower fun c hc => by rw [hc, Bool.true_or]
  have hopening : ∀ c : Char, c.toLower = '(' ↔ c = '(' :=
    fun c => Uri.toLower_eq_iff (by decide)
  have hbracket : ∀ c : Char, c.toLower = ')' ↔ c = ')' :=
    fun c => Uri.toLower_eq_iff (by decide)
  have hclosing : ∀ cs : List Char, cs.map Char.toLower = [')'] ↔ cs = [')'] := by
    intro cs
    simp only [List.map_eq_singleton_iff, hbracket, exists_eq_right]
  rw [isManPageReference, isManPageReference]
  simp only [lowerCase, String.toList_ofList, List.takeWhile_map, List.dropWhile_map, hname]
  rcases text.toList.dropWhile isPageNameChar with - | ⟨c, - | ⟨number, rest⟩⟩
  · rfl
  · simp
  · by_cases hc : c = '('
    · subst hc
      simp only [List.map_cons, (hopening '(').2 rfl, hdigit, List.dropWhile_map, hqualifier,
        hclosing, ne_eq, List.map_eq_nil_iff]
    · simp [hc, mt (hopening c).1 hc]

/-! ## Texts and lists -/

/-- Whether two texts differ at most in the case of letters in front of the first colon. -/
inductive Recased : List Char → List Char → Prop
  | nil : Recased [] []
  | colon (rest : List Char) : Recased (':' :: rest) (':' :: rest)
  | cons {c c' : Char} {cs cs' : List Char} :
      c ≠ ':' → c.toLower = c'.toLower → Recased cs cs' → Recased (c :: cs) (c' :: cs')

variable {cs cs' : List Char}

theorem Recased.refl (cs : List Char) : Recased cs cs := by
  induction cs with
  | nil => exact .nil
  | cons c cs ih =>
    by_cases hc : c = ':'
    · subst hc
      exact .colon cs
    · exact .cons hc rfl ih

/-- Different case in front of a colon. -/
theorem recased_append_colon {front front' : List Char} (h : ':' ∉ front)
    (hcase : front.map Char.toLower = front'.map Char.toLower) (rest : List Char) :
    Recased (front ++ ':' :: rest) (front' ++ ':' :: rest) := by
  induction front generalizing front' with
  | nil =>
    obtain rfl := List.map_eq_nil_iff.1 hcase.symm
    exact .colon rest
  | cons c front ih =>
    obtain ⟨c', front', rfl, hc, hfront⟩ := List.map_eq_cons_iff.1 hcase.symm
    rw [List.mem_cons, not_or] at h
    exact .cons (Ne.symm h.1) hc.symm (ih h.2 hfront.symm)

theorem Recased.map_toLower_eq (h : Recased cs cs') :
    cs.map Char.toLower = cs'.map Char.toLower := by
  induction h with
  | nil | colon rest => rfl
  | cons _ hc _ ih => rw [List.map_cons, List.map_cons, hc, ih]

theorem Recased.exists_front (h : Recased cs cs') (hcolon : ':' ∈ cs) :
    ∃ front front' rest, cs = front ++ ':' :: rest ∧ cs' = front' ++ ':' :: rest ∧ ':' ∉ front ∧
      front.map Char.toLower = front'.map Char.toLower := by
  induction h with
  | nil => cases hcolon
  | colon rest => exact ⟨[], [], rest, rfl, rfl, List.not_mem_nil, rfl⟩
  | @cons c c' cs cs' hne hc _ ih =>
    obtain ⟨front, front', rest, rfl, rfl, hfront, hcase⟩ :=
      ih (List.mem_of_ne_of_mem hne.symm hcolon)
    refine ⟨c :: front, c' :: front', rest, rfl, rfl, ?_, ?_⟩
    · exact List.not_mem_cons_of_ne_of_not_mem hne.symm hfront
    · rw [List.map_cons, List.map_cons, hc, hcase]

section References

variable {text text' : String} (h : Recased text.toList text'.toList)
include h

theorem Recased.isManPageReference_eq : isManPageReference text = isManPageReference text' := by
  rw [← isManPageReference_lowerCase text, ← isManPageReference_lowerCase text', lowerCase,
    h.map_toLower_eq, lowerCase]

theorem Recased.isDocumentationUri_eq : isDocumentationUri text = isDocumentationUri text' := by
  by_cases hcolon : ':' ∈ text.toList
  · obtain ⟨front, front', rest, hchars, hchars', hfront, hcase⟩ := h.exists_front hcolon
    have hfront' : ':' ∉ front' := by
      rwa [← Uri.colon_mem_map_toLower_iff, ← hcase, Uri.colon_mem_map_toLower_iff]
    apply isDocumentationUri_congr
    · rw [hchars, hchars', Uri.schemeOf?_recased hfront hcase]
    · rw [hchars, hchars', Uri.behindColon_append_cons hfront, Uri.behindColon_append_cons hfront']
  · have hcolon' : ':' ∉ text'.toList := by
      rwa [← Uri.colon_mem_map_toLower_iff, ← h.map_toLower_eq, Uri.colon_mem_map_toLower_iff]
    rw [isDocumentationUri_of_colon_not_mem hcolon, isDocumentationUri_of_colon_not_mem hcolon']

theorem Recased.isReference_eq : isReference text = isReference text' := by
  rw [isReference, h.isDocumentationUri_eq, h.isManPageReference_eq, isReference]

end References

theorem isSeparator_of_isLetter {c : Char} (hc : Uri.isLetter c) : isSeparator c = false :=
  (isPlain_of_isLetter hc).isSeparator

/-- Separators are no letters, so both texts have them at the same places. -/
theorem Recased.splitOnP (h : Recased cs cs') :
    List.Forall₂ Recased (cs.splitOnP isSeparator) (cs'.splitOnP isSeparator) := by
  induction h with
  | nil => exact .cons .nil .nil
  | colon rest => exact List.forall₂_same.2 fun piece _ => .refl piece
  | @cons c c' cs cs' hne hc _ ih =>
    have hkind := congrFun (Uri.kind_comp_toLower fun c hc => isSeparator_of_isLetter hc)
    have hseparator : isSeparator c = isSeparator c' := by
      rw [← hkind c, ← hkind c', Function.comp_apply, Function.comp_apply, hc]
    rw [List.splitOnP_cons_eq_if_modifyHead, List.splitOnP_cons_eq_if_modifyHead, hseparator]
    split
    · exact .cons .nil ih
    · generalize cs.splitOnP isSeparator = pieces at ih ⊢
      generalize cs'.splitOnP isSeparator = pieces' at ih ⊢
      cases ih with
      | nil => exact .nil
      | cons hfirst hothers => exact .cons (.cons hne hc hfirst) hothers

theorem Recased.eq_nil_iff (h : Recased cs cs') : cs = [] ↔ cs' = [] := by
  rw [← List.map_eq_nil_iff (f := Char.toLower), h.map_toLower_eq, List.map_eq_nil_iff]

theorem Recased.stretches (h : Recased cs cs') :
    List.Forall₂ Recased (stretches cs) (stretches cs') := by
  refine List.rel_filter (fun piece piece' hpiece => ?_) h.splitOnP
  simp only [decide_eq_true_eq, ne_eq, hpiece.eq_nil_iff]

theorem forall_isReference_iff {entries entries' : List (List Char)}
    (h : List.Forall₂ Recased entries entries') :
    (∀ entry ∈ entries, isReference (String.ofList entry)) ↔
      ∀ entry ∈ entries', isReference (String.ofList entry) := by
  induction h with
  | nil => exact Iff.rfl
  | @cons entry entry' entries entries' hentry _ ih =>
    have hreference : isReference (String.ofList entry) = isReference (String.ofList entry') := by
      apply Recased.isReference_eq
      rwa [String.toList_ofList, String.toList_ofList]
    rw [List.forall_mem_cons, List.forall_mem_cons, hreference, ih]

/-- Lists are accepted alike, as their entries are. -/
theorem Recased.accepts_iff {value value' : String} (h : Recased value.toList value'.toList) :
    documentation.diagnose? value = none ↔ documentation.diagnose? value' = none := by
  simp only [accepts_documentation_iff, listEntries_eq, List.forall_mem_map,
    forall_isReference_iff h.stretches]

/-- The case of letters in front of the first colon of a text decides nothing: not whether the text
is an address that refers to documentation, not whether it names a manual page, and not whether it
is accepted as a list of references. -/
theorem accepts_recased {front front' : String} (hcolon : ':' ∉ front.toList)
    (hcase : lowerCase front = lowerCase front') (rest : String) :
    isDocumentationUri (front ++ ":" ++ rest) = isDocumentationUri (front' ++ ":" ++ rest) ∧
      isManPageReference (front ++ ":" ++ rest) = isManPageReference (front' ++ ":" ++ rest) ∧
      (documentation.diagnose? (front ++ ":" ++ rest) = none ↔
        documentation.diagnose? (front' ++ ":" ++ rest) = none) := by
  have hsmall := congrArg String.toList hcase
  rw [lowerCase, lowerCase, String.toList_ofList, String.toList_ofList] at hsmall
  have hchars : ∀ front : String,
      (front ++ ":" ++ rest).toList = front.toList ++ ':' :: rest.toList := by
    intro front
    simp
  have h : Recased (front ++ ":" ++ rest).toList (front' ++ ":" ++ rest).toList := by
    rw [hchars, hchars]
    exact recased_append_colon hcolon hsmall rest.toList
  exact ⟨h.isDocumentationUri_eq, h.isManPageReference_eq, h.accepts_iff⟩

/-- A scheme in mixed case behind a control character, with a host that is none and with one. -/
theorem accepts_recased_hosts :
    ':' ∉ "\x01hTTp".toList ∧ lowerCase "\x01hTTp" = lowerCase "\x01HttP" ∧
      isDocumentationUri ("\x01HttP" ++ ":" ++ "//[::g]") = false ∧
      isDocumentationUri ("\x01HttP" ++ ":" ++ "//[::1]") ∧
      documentation.diagnose? ("\x01HttP" ++ ":" ++ "//[::1]") = none := by
  have hcolon : ':' ∉ "\x01hTTp".toList := by decide +kernel
  have hcase : lowerCase "\x01hTTp" = lowerCase "\x01HttP" := by decide +kernel
  refine ⟨hcolon, hcase, ?_, ?_, ?_⟩
  · rw [← (accepts_recased hcolon hcase "//[::g]").1]
    decide +kernel
  · rw [← (accepts_recased hcolon hcase "//[::1]").1]
    decide +kernel
  · rw [← (accepts_recased hcolon hcase "//[::1]").2.2]
    decide +kernel

end Validator

end UnitLint
