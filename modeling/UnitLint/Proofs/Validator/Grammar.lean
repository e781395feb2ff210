import UnitLint.Proofs.Text.Digit
import UnitLint.Proofs.Text.Runs
import UnitLint.Validator.Basic

/-!
# What validators accept

The grammars of values, said without reading a value, and that a validator rejects exactly the
values outside its grammar. Blanks at the ends of a value belong to no grammar.
-/

namespace UnitLint

namespace Validator

/-- Whether a text is a word for yes or no, up to the case of letters of ASCII. -/
def IsBooleanWord (text : String) : Prop :=
  ∃ word ∈ trueWords ++ falseWords, lowerCase text = lowerCase word

/-- Whether a text is three or four octal digits. -/
def IsOctalMode (text : String) : Prop :=
  (text.toList.length = 3 ∨ text.toList.length = 4) ∧ ∀ c ∈ text.toList, '0' ≤ c ∧ c ≤ '7'

/-- Whether all entries of a list refer to documentation. -/
def IsReferenceList (text : String) : Prop :=
  ∀ entry, entry ≠ "" → Text.IsRun isSeparator text.toList entry.toList → isReference entry

/-- The values of a validator. -/
def Accepts : Validator → String → Prop
  | boolean, value => IsBooleanWord (Text.trim value)
  | serviceType, value => Text.trim value ∈ Vocabulary.serviceType.words
  | restartPolicy, value => Text.trim value ∈ Vocabulary.restartPolicy.words
  | killMode, value => Text.trim value ∈ Vocabulary.killMode.words
  | modeString, value => IsOctalMode (Text.trim value)
  | documentation, value => IsReferenceList value
  | null, _ => True

/-! ## One validator after the other -/

/-- Among words in lower case a text is found in lower case. -/
theorem exists_lowerCase_eq_iff {words : List String} {text : String}
    (hwords : ∀ word ∈ words, lowerCase word = word) :
    (∃ word ∈ words, lowerCase text = lowerCase word) ↔ lowerCase text ∈ words := by
  constructor
  · rintro ⟨word, hword, heq⟩
    rwa [heq, hwords word hword]
  · intro hmem
    exact ⟨lowerCase text, hmem, (hwords _ hmem).symm⟩

theorem isBooleanWord_iff (text : String) :
    IsBooleanWord text ↔ lowerCase text ∈ trueWords ∨ lowerCase text ∈ falseWords := by
  rw [← List.mem_append]
  exact exists_lowerCase_eq_iff (by decide)

theorem rejectionOf?_parseBoolean_eq_none_iff (value : String) :
    rejectionOf? (parseBoolean value) = none ↔ IsBooleanWord (Text.trim value) := by
  rw [isBooleanWord_iff, parseBoolean]
  split
  · next htrue => simp [rejectionOf?, htrue]
  · next htrue =>
    split
    · next hfalse => simp [rejectionOf?, hfalse]
    · next hfalse => simp [rejectionOf?, htrue, hfalse]

/-- Octal digits are decimal ones, so nothing octal is turned away when decimal ones are asked
for. -/
theorem isOctalMode_iff (text : String) :
    IsOctalMode text ↔
      (text.toList.all Text.isDigit ∧ (text.toList.length = 3 ∨ text.toList.length = 4)) ∧
        (Text.numeral? 8 text.toList).isSome := by
  rw [Text.isSome_numeral?_iff]
  simp only [Text.isSome_digit?_eight_iff]
  constructor
  · rintro ⟨hlength, hoctal⟩
    refine ⟨⟨List.all_eq_true.2 fun c hc => ?_, hlength⟩, hoctal⟩
    obtain ⟨hlow, hhigh⟩ := hoctal c hc
    rw [Text.le_iff_toNat_le] at hlow hhigh
    exact (Text.isDigit_iff c).2 ⟨hlow, Nat.le_trans hhigh (by decide)⟩
  · rintro ⟨⟨-, hlength⟩, hoctal⟩
    exact ⟨hlength, hoctal⟩

theorem rejectionOf?_parseMode_eq_none_iff (value : String) :
    rejectionOf? (parseMode value) = none ↔ IsOctalMode (Text.trim value) := by
  rw [isOctalMode_iff, parseMode]
  split
  · next hdigits =>
    rw [and_iff_right hdigits]
    cases Text.numeral? 8 (Text.trim value).toList <;> simp [rejectionOf?]
  · next hdigits => exact iff_of_false (by simp [rejectionOf?]) fun h => hdigits h.1

theorem rejectReferences?_eq_none_iff (value : String) :
    rejectReferences? value = none ↔ IsReferenceList value := by
  have hbad : rejectReferences? value = none ↔ badReferences value = [] := by
    rw [rejectReferences?]
    split <;> simp_all
  rw [hbad, badReferences, List.filter_eq_nil_iff]
  simp only [mem_listEntries, and_imp, Bool.not_eq_true', Bool.not_eq_false, IsReferenceList]

end Validator

theorem Vocabulary.reject?_eq_none_iff (vocabulary : Vocabulary) (value : String) :
    vocabulary.reject? value = none ↔ Text.trim value ∈ vocabulary.words := by
  rw [reject?]
  split <;> simp_all

namespace Validator

/-- A validator rejects exactly the values outside its grammar. -/
theorem reject?_eq_none_iff (validator : Validator) (value : String) :
    validator.reject? value = none ↔ validator.Accepts value := by
  cases validator with
  | boolean => exact rejectionOf?_parseBoolean_eq_none_iff value
  | serviceType => exact Vocabulary.serviceType.reject?_eq_none_iff value
  | restartPolicy => exact Vocabulary.restartPolicy.reject?_eq_none_iff value
  | killMode => exact Vocabulary.killMode.reject?_eq_none_iff value
  | modeString => exact rejectionOf?_parseMode_eq_none_iff value
  | documentation => exact rejectReferences?_eq_none_iff value
  | null => exact iff_of_true rfl trivial

/-- There is something to be said about a value exactly if it is outside the grammar. -/
theorem isSome_diagnose?_iff (validator : Validator) (value : String) :
    (validator.diagnose? value).isSome ↔ ¬validator.Accepts value := by
  rw [← reject?_eq_none_iff, diagnose?, Option.isSome_map, Option.isSome_iff_ne_none]

/-- Only the validator of any value accepts a lone question mark. -/
theorem not_accepts_questionMark {validator : Validator} (h : validator ≠ null) :
    ¬validator.Accepts "?" := by
  rw [← reject?_eq_none_iff]
  cases validator with
  | null => contradiction
  | _ => decide

/-! ## Names -/

theorem name_injective {first second : Validator} (h : first.name = second.name) :
    first = second := by
  cases first <;> cases second <;> first | rfl | exact absurd h (by decide)

theorem ofName?_eq_some_iff {name : String} {validator : Validator} :
    ofName? name = some validator ↔ validator.name = name := by
  constructor
  · intro h
    simpa using List.find?_some h
  · rintro rfl
    cases validator <;> decide

end Validator

end UnitLint
