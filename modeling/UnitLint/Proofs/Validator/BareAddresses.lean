import UnitLint.Proofs.Validator.ManualPages

/-!
# Addresses without an address

A scheme with nothing behind its colon refers to no documentation. Whether something stands there is
asked of the text as given, though, and a control character that is no part of the address counts.
So `man:` is refused, and `man:` with an invisible character behind it is not.
-/

namespace UnitLint.Validator

/-- The schemes whose addresses need no host. -/
def hostlessSchemes : List Uri.Scheme := [.file, .info, .man]

variable {text : String} {scheme : Uri.Scheme}

theorem isDocumentationUri_iff_behindColon (hscheme : scheme ∈ hostlessSchemes)
    (h : Uri.schemeOf? text.toList = some scheme) :
    isDocumentationUri text ↔ Uri.behindColon text.toList ≠ [] := by
  rw [isDocumentationUri, h]
  cases scheme with
  | http | https => exact absurd hscheme (by decide)
  | file | info | man => exact decide_eq_true_iff

/-- The name of a manual page ends in a closing bracket. -/
theorem getLast?_of_isManPageReference (h : isManPageReference text) :
    text.toList.getLast? = some ')' := by
  obtain ⟨name, number, qualifier, hchars, -⟩ := isManPageReference_iff_exists.1 h
  rw [hchars, ← List.cons_append, ← List.cons_append, ← List.append_assoc, List.getLast?_concat]

/-- A text in which only spaces and control characters stand behind a colon names no manual page. -/
theorem isManPageReference_eq_false (hcolon : ':' ∈ text.toList)
    (hbare : ∀ c ∈ Uri.behindColon text.toList, Uri.isControlOrSpace c) :
    isManPageReference text = false := by
  rw [← Bool.not_eq_true]
  intro h
  obtain ⟨front, -, hcs⟩ := Uri.exists_behindColon hcolon
  have hlast := getLast?_of_isManPageReference h
  rw [hcs, List.getLast?_append_of_ne_nil front (List.cons_ne_nil _ _)] at hlast
  rcases List.mem_cons.1 (List.mem_of_getLast? hlast) with hmark | hmem
  · exact absurd hmark (by decide)
  · exact absurd (hbare ')' hmem) (by decide)

/-- For every address whose scheme needs no host, something that belongs to the address stands
behind the colon, unless all that stands there is spaces and control characters, which are taken for
something. So a text that cannot be told from a bare scheme once such characters are left out is
accepted whenever it has any behind its colon. -/
theorem isDocumentationUri_bare_iff (hscheme : scheme ∈ hostlessSchemes) :
    (Uri.schemeOf? text.toList = some scheme →
      ((isDocumentationUri text → Uri.addressChars (Uri.behindColon text.toList) ≠ []) ↔
        (Uri.behindColon text.toList = [] ∨
          ∃ c ∈ Uri.behindColon text.toList, ¬Uri.isControlOrSpace c))) ∧
      ((Uri.addressChars text.toList).map Char.toLower = scheme.name.toList ++ [':'] →
        (isDocumentationUri text ↔ Uri.behindColon text.toList ≠ []) ∧
          ((∀ c ∈ text.toList, isSeparator c = false) →
            (documentation.diagnose? text = none ↔ Uri.behindColon text.toList ≠ []))) := by
  constructor
  · intro h
    rw [isDocumentationUri_iff_behindColon hscheme h]
    simp only [ne_eq, Uri.addressChars_eq_nil_iff, not_forall, exists_prop]
    exact or_iff_not_imp_left.symm
  · intro hbare
    have hsplit := Uri.splitScheme?_of_map_toLower hbare
    have hcolon := Uri.colon_mem_of_splitScheme? hsplit
    have hcontrols : ∀ c ∈ Uri.behindColon text.toList, Uri.isControlOrSpace c :=
      Uri.charsBehind_eq_nil_iff.1 (Uri.charsBehind_behindColon hsplit).symm
    have hrest : Uri.isRest scheme [] := by
      cases scheme with
      | http | https => exact absurd hscheme (by decide)
      | file | info | man => rfl
    have huri := isDocumentationUri_iff_behindColon hscheme
      (Uri.schemeOf?_eq_some_iff.2 ⟨[], hsplit, hrest⟩)
    refine ⟨huri, fun hentry => ?_⟩
    have hne : text ≠ "" := by
      rintro rfl
      exact absurd hcolon (by decide)
    rw [accepts_entry_iff hne hentry, isReference, isManPageReference_eq_false hcolon hcontrols,
      Bool.or_false, huri]

/-- A control character behind the colon does not hide what follows it. Of two texts that come to a
bare scheme, the one with a control character there is accepted. -/
theorem isDocumentationUri_bare_iff_man :
    .man ∈ hostlessSchemes ∧
      (isDocumentationUri "man:\x01x" →
        Uri.addressChars (Uri.behindColon "man:\x01x".toList) ≠ []) ∧
      (isDocumentationUri "\x02MAN:\x01" ↔ Uri.behindColon "\x02MAN:\x01".toList ≠ []) ∧
      (documentation.diagnose? "\x02MAN:" = none ↔ Uri.behindColon "\x02MAN:".toList ≠ []) := by
  have hscheme : .man ∈ hostlessSchemes := by decide
  refine ⟨hscheme, ?_, ?_, ?_⟩
  · apply ((isDocumentationUri_bare_iff hscheme).1 (by decide +kernel)).2
    exact .inr ⟨'x', by decide +kernel, by decide⟩
  · exact ((isDocumentationUri_bare_iff hscheme).2 (by decide +kernel)).1
  · apply ((isDocumentationUri_bare_iff hscheme).2 (by decide +kernel)).2
    exact List.all_iff_forall_prop.1 (by decide +kernel)

/-- A control character behind the colon is no part of the address, and yet the text is accepted,
unlike the bare scheme. -/
theorem isDocumentationUri_control :
    Uri.schemeOf? "man:\x01".toList = some .man ∧ isDocumentationUri "man:\x01" ∧
      Uri.addressChars (Uri.behindColon "man:\x01".toList) = [] ∧
      Uri.addressChars "man:\x01".toList = "man:".toList ∧
      documentation.diagnose? "man:\x01" = none ∧ isDocumentationUri "man:" = false ∧
      (documentation.diagnose? "man:").isSome := by
  decide +kernel

end UnitLint.Validator
