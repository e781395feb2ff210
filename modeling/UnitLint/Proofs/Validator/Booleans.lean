import Mathlib.Data.List.Forall2
import UnitLint.Proofs.Uri.Address
import UnitLint.Proofs.Validator.Grammar

/-!
# Booleans

Which values say yes, which say no, and that nothing else is taken for either. Case is a matter of
letters of ASCII alone: two texts that differ in it have the same blanks at their ends and say the
same. A letter of another alphabet is no such letter, not even one whose small or capital form looks
like one.
-/

namespace UnitLint

namespace Validator

/-- Whether a letter of ASCII is the small form of a capital one. -/
def IsSmallForm (small capital : Char) : Prop :=
  'A' ≤ capital ∧ capital ≤ 'Z' ∧ small.toNat = capital.toNat + 32

/-- Whether two characters are the same but for the case of a letter of ASCII. -/
def SameButCase (c d : Char) : Prop :=
  c = d ∨ IsSmallForm c d ∨ IsSmallForm d c

/-- Whether two texts are equal but for the case of letters of ASCII. -/
def EqualButCase (text text' : String) : Prop :=
  List.Forall₂ SameButCase text.toList text'.toList

/-- Whether a text is one of some words, but for the case of letters of ASCII. -/
def IsOneOf (words : List String) (text : String) : Prop :=
  ∃ word ∈ words, EqualButCase text word

variable {text text' value value' : String} {words : List String} {result : Bool}

/-! ## Case -/

theorem sameButCase_iff {c d : Char} : SameButCase c d ↔ c.toLower = d.toLower := by
  simp only [SameButCase, IsSmallForm, Text.le_iff_toNat_le, ← Char.toNat_inj, Text.toNat_toLower,
    Char.reduceToNat]
  split <;> split <;> omega

theorem equalButCase_iff : EqualButCase text text' ↔ lowerCase text = lowerCase text' := by
  have hrelation : SameButCase = fun c d => c.toLower = d.toLower := by
    funext c d
    exact propext sameButCase_iff
  have hchars : text.toList.map Char.toLower = text'.toList.map Char.toLower ↔
      List.Forall₂ (fun c d => c.toLower = d.toLower) text.toList text'.toList := by
    rw [← List.forall₂_eq_eq_eq, List.forall₂_map_left_iff, List.forall₂_map_right_iff]
  rw [EqualButCase, hrelation, ← hchars, lowerCase, lowerCase, String.ofList_inj]

theorem isOneOf_iff (hwords : ∀ word ∈ words, lowerCase word = word) :
    IsOneOf words text ↔ lowerCase text ∈ words := by
  simp only [IsOneOf, equalButCase_iff]
  exact exists_lowerCase_eq_iff hwords

theorem isOneOf_trueWords_iff : IsOneOf trueWords text ↔ lowerCase text ∈ trueWords :=
  isOneOf_iff (by decide)

theorem isOneOf_falseWords_iff : IsOneOf falseWords text ↔ lowerCase text ∈ falseWords :=
  isOneOf_iff (by decide)

/-- No text says both yes and no. -/
theorem not_isOneOf_both (text : String) :
    ¬(IsOneOf trueWords text ∧ IsOneOf falseWords text) := by
  have hdisjoint : ∀ word ∈ trueWords, word ∉ falseWords := by decide
  rw [isOneOf_trueWords_iff, isOneOf_falseWords_iff]
  rintro ⟨htrue, hfalse⟩
  exact hdisjoint _ htrue hfalse

theorem isBlank_of_isLetter {c : Char} (h : Uri.isLetter c) : Text.isBlank c = false := by
  rw [Uri.isLetter_iff] at h
  simp only [Char.reduceToNat] at h
  exact Text.isBlank_of_printable (by omega) (by omega)

/-- Blanks are no letters, so they are trimmed alike whatever the case of letters is. -/
theorem trim_lowerCase (value : String) :
    Text.trim (lowerCase value) = lowerCase (Text.trim value) := by
  have hblank : Text.isBlank ∘ Char.toLower = Text.isBlank :=
    Uri.kind_comp_toLower fun _ => isBlank_of_isLetter
  simp only [Text.trim, Text.trimChars, lowerCase, String.toList_ofList, List.dropWhile_map, hblank,
    ← List.map_reverse]

/-! ## What is read -/

theorem parseBoolean_eq_true_iff :
    parseBoolean value = .ok true ↔ IsOneOf trueWords (Text.trim value) := by
  rw [isOneOf_trueWords_iff, parseBoolean]
  split
  · next htrue => exact iff_of_true rfl htrue
  · next htrue => split <;> simp [htrue]

theorem parseBoolean_eq_false_iff :
    parseBoolean value = .ok false ↔ IsOneOf falseWords (Text.trim value) := by
  have hboth := not_isOneOf_both (Text.trim value)
  rw [isOneOf_trueWords_iff, isOneOf_falseWords_iff] at hboth
  rw [isOneOf_falseWords_iff, parseBoolean]
  split
  · next htrue => simpa using fun hfalse => hboth ⟨htrue, hfalse⟩
  · split
    · next hfalse => exact iff_of_true rfl hfalse
    · next hfalse => simp [hfalse]

theorem parseBoolean_eq_error_iff {rejection : Rejection} :
    parseBoolean value = .error rejection ↔
      ¬IsOneOf (trueWords ++ falseWords) (Text.trim value) ∧
        rejection = .notBoolean (Text.trim value) := by
  rw [isOneOf_iff (by decide), List.mem_append, parseBoolean]
  split
  · next htrue => simp [htrue]
  · next htrue =>
    split
    · next hfalse => simp [hfalse]
    · next hfalse => simp [htrue, hfalse, eq_comm]

/-- What is accepted has characters of ASCII only, none of which is blank. -/
theorem forall_mem_of_isOneOf (h : IsOneOf (trueWords ++ falseWords) text) :
    ∀ c ∈ text.toList, c.toNat ≤ 127 ∧ Text.isBlank c = false := by
  have hwords : ∀ word ∈ trueWords ++ falseWords,
      word.toList.all fun c => 0x20 < c.toNat && c.toNat ≤ 127 := by decide
  rw [isOneOf_iff (by decide)] at h
  intro c hc
  have hmem : c.toLower ∈ (lowerCase text).toList := by
    rw [lowerCase, String.toList_ofList]
    exact List.mem_map_of_mem hc
  have hrange := List.all_eq_true.1 (hwords _ h) c.toLower hmem
  simp only [Bool.and_eq_true, decide_eq_true_eq, Text.toNat_toLower, Char.reduceToNat] at hrange
  have hprintable : 0x20 < c.toNat ∧ c.toNat ≤ 127 := by
    split at hrange <;> omega
  exact ⟨hprintable.2, Text.isBlank_of_printable hprintable.1 (by omega)⟩

/-- The case of letters in a value that is accepted changes nothing. -/
theorem EqualButCase.parseBoolean_eq (h : EqualButCase value value')
    (hresult : parseBoolean value = .ok result) : parseBoolean value' = .ok result := by
  have htrim : lowerCase (Text.trim value) = lowerCase (Text.trim value') := by
    rw [← trim_lowerCase, equalButCase_iff.1 h, trim_lowerCase]
  cases result with
  | true =>
    rw [parseBoolean_eq_true_iff, isOneOf_trueWords_iff] at hresult ⊢
    rwa [← htrim]
  | false =>
    rw [parseBoolean_eq_false_iff, isOneOf_falseWords_iff] at hresult ⊢
    rwa [← htrim]

/-- What is said of a value that is no boolean. -/
def complaintOfWord (text : String) : String :=
  Rejection.inQuotes text ++ " is not a valid boolean (expected yes/no, true/false, on/off, 1/0)"

theorem complains_of_word_iff :
    (parseBoolean value).mapError Rejection.message = .error (complaintOfWord (Text.trim value)) ↔
      ¬IsOneOf (trueWords ++ falseWords) (Text.trim value) := by
  constructor
  · intro hcomplains
    cases hparse : parseBoolean value with
    | ok result =>
      rw [hparse] at hcomplains
      cases hcomplains
    | error rejection => exact (parseBoolean_eq_error_iff.1 hparse).1
  · intro hword
    rw [parseBoolean_eq_error_iff.2 ⟨hword, rfl⟩]
    rfl

/-- For every value, trimmed: it is read as yes exactly if it is one of six words but for case, and
as no exactly if it is one of six others, and every other one is quoted in a complaint. So the case
of letters changes nothing about a value that is accepted, no text says both, and a character that
is not of ASCII is never accepted, nor is a blank inside. -/
theorem parseBoolean_outcome (value : String) :
    (parseBoolean value = .ok true ↔
      IsOneOf ["1", "yes", "y", "true", "t", "on"] (Text.trim value)) ∧
    (parseBoolean value = .ok false ↔
      IsOneOf ["0", "no", "n", "false", "f", "off"] (Text.trim value)) ∧
    ((parseBoolean value).mapError Rejection.message = .error (complaintOfWord (Text.trim value)) ↔
      ¬IsOneOf ["1", "yes", "y", "true", "t", "on", "0", "no", "n", "false", "f", "off"]
        (Text.trim value)) ∧
    (∀ value' result, EqualButCase value value' → parseBoolean value = .ok result →
      parseBoolean value' = .ok result) ∧
    (∀ text, ¬(IsOneOf ["1", "yes", "y", "true", "t", "on"] text ∧
      IsOneOf ["0", "no", "n", "false", "f", "off"] text)) ∧
    ((∃ c ∈ (Text.trim value).toList, 127 < c.toNat ∨ Text.isBlank c) →
      (parseBoolean value).mapError Rejection.message =
        .error (complaintOfWord (Text.trim value))) := by
  refine ⟨parseBoolean_eq_true_iff, parseBoolean_eq_false_iff, complains_of_word_iff,
    fun value' result h => h.parseBoolean_eq, not_isOneOf_both, ?_⟩
  rintro ⟨c, hc, hkind⟩
  refine complains_of_word_iff.2 fun hword => ?_
  obtain ⟨hascii, hblank⟩ := forall_mem_of_isOneOf hword c hc
  rcases hkind with hhigh | hkind
  · omega
  · exact absurd (hblank.symm.trans hkind) Bool.false_ne_true

/-- A word in mixed case between blanks, the same in another case, a letter whose capital form is
one of ASCII, and a blank inside. -/
theorem parseBoolean_outcome_mixed :
    EqualButCase "\u2003yEs\n" "\u2003YeS\n" ∧ parseBoolean "\u2003yEs\n" = .ok true ∧
      parseBoolean "\u2003YeS\n" = .ok true ∧
      (parseBoolean "yeſ").mapError Rejection.message = .error (complaintOfWord "yeſ") ∧
      (parseBoolean " o\u00a0n").mapError Rejection.message =
        .error (complaintOfWord "o\u00a0n") := by
  have hcase : EqualButCase "\u2003yEs\n" "\u2003YeS\n" := equalButCase_iff.2 (by decide +kernel)
  have htrim : Text.trim "\u2003yEs\n" = "yEs" := by decide +kernel
  have htrue : parseBoolean "\u2003yEs\n" = .ok true := by
    rw [(parseBoolean_outcome _).1, htrim]
    exact ⟨"yes", by decide, equalButCase_iff.2 (by decide +kernel)⟩
  have hother : Text.trim "yeſ" = "yeſ" := by decide +kernel
  have hinner : Text.trim " o\u00a0n" = "o\u00a0n" := by decide +kernel
  refine ⟨hcase, htrue, (parseBoolean_outcome _).2.2.2.1 _ _ hcase htrue, ?_, ?_⟩
  · have h := (parseBoolean_outcome "yeſ").2.2.2.2.2
    rw [hother] at h
    exact h ⟨'ſ', by decide +kernel, .inl (by decide)⟩
  · have h := (parseBoolean_outcome " o\u00a0n").2.2.2.2.2
    rw [hinner] at h
    exact h ⟨'\u00a0', by decide +kernel, .inr (by decide)⟩

end Validator

end UnitLint
