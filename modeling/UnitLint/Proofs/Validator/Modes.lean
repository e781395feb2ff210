import Mathlib.Data.Nat.Digits.Lemmas
import UnitLint.Proofs.Text.Spans
import UnitLint.Proofs.Validator.Grammar

/-!
# File modes

What becomes of a value that is to be a file mode. Three or four octal digits are read as the number
that they stand for. Of three or four decimal digits that are not all octal it is said that octal
digits end with seven, and of any other text, what a mode looks like.
-/

namespace UnitLint

namespace Text

/-- The first digit weighs most. -/
theorem ofDigits_eq (base : Nat) (digits : List Nat) :
    ofDigits base digits = Nat.ofDigits base digits.reverse := by
  rw [Nat.ofDigits_eq_foldr, List.foldr_reverse, ofDigits]
  simp only [Nat.cast_id, Nat.add_comm, Nat.mul_comm]

theorem isBlank_of_isDigit {c : Char} (h : isDigit c) : isBlank c = false := by
  rw [isDigit_iff] at h
  simp only [Char.reduceToNat] at h
  exact isBlank_of_printable (by omega) (by omega)

/-- Octal digits are a numeral, whatever their number. -/
theorem numeral?_eight {cs : List Char} (h : ∀ c ∈ cs, '0' ≤ c ∧ c ≤ '7') :
    numeral? 8 cs = some (ofDigits 8 (cs.map fun c => c.toNat - '0'.toNat)) := by
  have hdigits : cs.mapM (digit? 8) = some (cs.map fun c => c.toNat - '0'.toNat) := by
    induction cs with
    | nil => rfl
    | cons c cs ih =>
      obtain ⟨hc, hcs⟩ := List.forall_mem_cons.1 h
      rw [List.mapM_cons, digit?_eight_eq_some_iff.2 ⟨hc, rfl⟩, ih hcs]
      rfl
  rw [numeral?, hdigits, Option.map_some]

/-- Nothing is trimmed where there are no blanks. -/
theorem trim_of_forall {text : String} (h : ∀ c ∈ text.toList, isBlank c = false) :
    trim text = text := by
  have hchars : trimChars text.toList = (text.toList.dropWhile isBlank).rdropWhile isBlank := rfl
  rw [trim, hchars, (EndsSpan.of_forall h).dropWhile_eq_self, rdropWhile_of_forall h,
    String.ofList_toList]

end Text

namespace Validator

/-- Whether a text is three or four decimal digits. -/
def IsDecimalMode (text : String) : Prop :=
  (text.toList.length = 3 ∨ text.toList.length = 4) ∧ ∀ c ∈ text.toList, '0' ≤ c ∧ c ≤ '9'

/-- The number whose octal digits a text holds, the last one weighing least. -/
def octalValue (text : String) : Nat :=
  Nat.ofDigits 8 (text.toList.reverse.map fun c => c.toNat - '0'.toNat)

variable {text value : String}

theorem isDecimalMode_iff : IsDecimalMode text ↔
    text.toList.all Text.isDigit ∧ (text.toList.length = 3 ∨ text.toList.length = 4) := by
  simp only [IsDecimalMode, List.all_eq_true, Text.isDigit, Bool.and_eq_true, decide_eq_true_eq,
    and_comm]

theorem isDecimalMode_of_isOctalMode (h : IsOctalMode text) : IsDecimalMode text :=
  isDecimalMode_iff.2 ((isOctalMode_iff text).1 h).1

/-- A decimal digit that is not octal is one of two. -/
theorem IsDecimalMode.not_isOctalMode_iff (h : IsDecimalMode text) :
    ¬IsOctalMode text ↔ ∃ c ∈ text.toList, c = '8' ∨ c = '9' := by
  have hoctal : IsOctalMode text ↔ ∀ c ∈ text.toList, '0' ≤ c ∧ c ≤ '7' := and_iff_right h.1
  rw [hoctal]
  simp only [not_forall, exists_prop]
  refine exists_congr fun c => and_congr_right fun hc => ?_
  have hdigit := h.2 c hc
  simp only [Text.le_iff_toNat_le, ← Char.toNat_inj, Char.reduceToNat] at hdigit ⊢
  omega

theorem octalValue_eq (text : String) :
    octalValue text = Text.ofDigits 8 (text.toList.map fun c => c.toNat - '0'.toNat) := by
  rw [Text.ofDigits_eq, octalValue, List.map_reverse]

/-! ## The three outcomes -/

instance (text : String) : Decidable (IsOctalMode text) :=
  @instDecidableAnd _ _ _ (List.decidableBAll _ _)

instance (text : String) : Decidable (IsDecimalMode text) :=
  @instDecidableAnd _ _ _ (List.decidableBAll _ _)

/-- What is read is told by the kind of digits. -/
theorem parseMode_eq (value : String) :
    parseMode value =
      if IsOctalMode (Text.trim value) then .ok (octalValue (Text.trim value))
      else if IsDecimalMode (Text.trim value) then .error (.notOctal (Text.trim value))
      else .error (.notMode (Text.trim value)) := by
  rw [parseMode]
  by_cases hdecimal : IsDecimalMode (Text.trim value)
  · simp only [if_pos (isDecimalMode_iff.1 hdecimal), if_pos hdecimal]
    split
    · next mode hmode =>
      have hoctal : IsOctalMode (Text.trim value) :=
        (isOctalMode_iff _).2 ⟨isDecimalMode_iff.1 hdecimal, Option.isSome_of_mem hmode⟩
      rw [if_pos hoctal, octalValue_eq]
      rw [Text.numeral?_eight hoctal.2] at hmode
      rw [Option.some.inj hmode]
    · next hnone =>
      rw [if_neg]
      intro hoctal
      rw [Text.numeral?_eight hoctal.2] at hnone
      contradiction
  · have hoctal : ¬IsOctalMode (Text.trim value) := mt isDecimalMode_of_isOctalMode hdecimal
    simp only [if_neg (mt isDecimalMode_iff.2 hdecimal), if_neg hdecimal, if_neg hoctal]

theorem parseMode_eq_ok_iff {mode : Nat} :
    parseMode value = .ok mode ↔
      IsOctalMode (Text.trim value) ∧ mode = octalValue (Text.trim value) := by
  rw [parseMode_eq]
  split
  · next hoctal => simp only [Except.ok.injEq, hoctal, true_and, eq_comm]
  · next hoctal => split <;> simp [hoctal]

/-- A mode has at most four octal digits. -/
theorem IsOctalMode.octalValue_le (h : IsOctalMode text) : octalValue text ≤ 0o7777 := by
  have hdigits : ∀ digit ∈ text.toList.reverse.map fun c => c.toNat - '0'.toNat, digit < 8 := by
    simp only [List.forall_mem_map, List.mem_reverse]
    intro c hc
    have hoctal := h.2 c hc
    simp only [Text.le_iff_toNat_le, Char.reduceToNat] at hoctal ⊢
    omega
  have hlt := Nat.ofDigits_lt_base_pow_length (by decide) hdigits
  rw [List.length_map, List.length_reverse] at hlt
  have hpow : 8 ^ text.toList.length ≤ 8 ^ 4 :=
    Nat.pow_le_pow_right (by decide) (by have := h.1; omega)
  have hvalue : octalValue text < 8 ^ text.toList.length := hlt
  omega

theorem toList_zero_append (text : String) : ("0" ++ text).toList = '0' :: text.toList := by
  simp

theorem octalValue_zero_append (text : String) : octalValue ("0" ++ text) = octalValue text := by
  rw [octalValue, toList_zero_append, List.reverse_cons, List.map_append, Nat.ofDigits_append,
    octalValue]
  simp

/-- A zero in front makes no difference to three digits. -/
theorem parseMode_zero_append (h : IsOctalMode text) (hlength : text.toList.length = 3) :
    parseMode ("0" ++ text) = .ok (octalValue text) := by
  have hzero : IsOctalMode ("0" ++ text) := by
    rw [IsOctalMode, toList_zero_append, List.length_cons, hlength]
    exact ⟨.inr rfl, List.forall_mem_cons.2 ⟨by decide, h.2⟩⟩
  have htrim : Text.trim ("0" ++ text) = "0" ++ text := by
    refine Text.trim_of_forall fun c hc => Text.isBlank_of_isDigit ?_
    exact List.all_eq_true.1 (isDecimalMode_iff.1 (isDecimalMode_of_isOctalMode hzero)).1 c hc
  rw [parseMode_eq_ok_iff, htrim, octalValue_zero_append]
  exact ⟨hzero, rfl⟩

/-- What is said of three or four digits that are not all octal. -/
def complaintOfDigits (text : String) : String :=
  Rejection.inQuotes text ++ " is not a valid file mode (octal digits are 0-7)"

/-- What is said of anything else that is no mode. -/
def complaintOfForm (text : String) : String :=
  Rejection.inQuotes text ++ " is not a valid file mode (expected 3 or 4 octal digits, e.g. 0644)"

theorem complaintOfDigits_ne (text : String) : complaintOfDigits text ≠ complaintOfForm text := by
  rw [complaintOfDigits, complaintOfForm, ne_eq, String.append_right_inj]
  decide

/-- What is said is told by the kind of digits, too. -/
theorem mapError_parseMode (value : String) :
    (parseMode value).mapError Rejection.message =
      if IsOctalMode (Text.trim value) then .ok (octalValue (Text.trim value))
      else if IsDecimalMode (Text.trim value) then .error (complaintOfDigits (Text.trim value))
      else .error (complaintOfForm (Text.trim value)) := by
  rw [parseMode_eq]
  split
  · rfl
  · split <;> rfl

theorem complains_of_digits_iff :
    (parseMode value).mapError Rejection.message = .error (complaintOfDigits (Text.trim value)) ↔
      IsDecimalMode (Text.trim value) ∧ ∃ c ∈ (Text.trim value).toList, c = '8' ∨ c = '9' := by
  rw [mapError_parseMode]
  split
  · next hoctal =>
    have hdecimal := isDecimalMode_of_isOctalMode hoctal
    rw [← hdecimal.not_isOctalMode_iff]
    simp [hoctal]
  · next hoctal =>
    split
    · next hdecimal => exact iff_of_true rfl ⟨hdecimal, hdecimal.not_isOctalMode_iff.1 hoctal⟩
    · next hdecimal => simp [hdecimal, (complaintOfDigits_ne _).symm]

theorem complains_of_form_iff :
    (parseMode value).mapError Rejection.message = .error (complaintOfForm (Text.trim value)) ↔
      ¬IsDecimalMode (Text.trim value) := by
  rw [mapError_parseMode]
  split
  · next hoctal => simp [isDecimalMode_of_isOctalMode hoctal]
  · split
    · next hdecimal => simp [hdecimal, complaintOfDigits_ne]
    · next hdecimal => simp [hdecimal]

/-- For every value, trimmed: it is read as a mode exactly if it is three or four octal digits, and
then the mode is the number they stand for, which no zero in front of three digits changes. It is
refused with one wording exactly if it is three or four decimal digits with an eight or a nine among
them, and with the other exactly if it is not three or four decimal digits. -/
theorem parseMode_outcome (value : String) :
    (∀ mode, parseMode value = .ok mode ↔
      IsOctalMode (Text.trim value) ∧ mode = octalValue (Text.trim value)) ∧
    (∀ mode, parseMode value = .ok mode →
      mode ≤ 0o7777 ∧
        ((Text.trim value).toList.length = 3 → parseMode ("0" ++ Text.trim value) = .ok mode)) ∧
    ((parseMode value).mapError Rejection.message = .error (complaintOfDigits (Text.trim value)) ↔
      IsDecimalMode (Text.trim value) ∧ ∃ c ∈ (Text.trim value).toList, c = '8' ∨ c = '9') ∧
    ((parseMode value).mapError Rejection.message = .error (complaintOfForm (Text.trim value)) ↔
      ¬IsDecimalMode (Text.trim value)) := by
  refine ⟨fun mode => parseMode_eq_ok_iff, ?_, complains_of_digits_iff, complains_of_form_iff⟩
  intro mode hmode
  obtain ⟨hoctal, hvalue⟩ := parseMode_eq_ok_iff.1 hmode
  rw [hvalue]
  exact ⟨hoctal.octalValue_le, parseMode_zero_append hoctal⟩

/-- Three digits between blanks, with and without a zero in front, digits of which one is not octal,
and a sign in front of digits. -/
theorem parseMode_outcome_digits :
    parseMode "\u00a0644\n" = .ok 0o644 ∧ 0o644 ≤ 0o7777 ∧
      parseMode ("0" ++ Text.trim "\u00a0644\n") = .ok 0o644 ∧
      (parseMode "0758").mapError Rejection.message = .error (complaintOfDigits "0758") ∧
      (parseMode "+755").mapError Rejection.message = .error (complaintOfForm "+755") := by
  have hread : parseMode "\u00a0644\n" = .ok 0o644 :=
    ((parseMode_outcome _).1 _).2 ⟨by decide +kernel, by decide +kernel⟩
  obtain ⟨hle, hzero⟩ := (parseMode_outcome _).2.1 _ hread
  have hdigits : Text.trim "0758" = "0758" := by decide +kernel
  have hsign : Text.trim "+755" = "+755" := by decide +kernel
  refine ⟨hread, hle, hzero (by decide +kernel), ?_, ?_⟩
  · have h := (parseMode_outcome "0758").2.2.1
    rw [hdigits] at h
    exact h.2 ⟨by decide +kernel, '8', by decide +kernel, .inl rfl⟩
  · have h := (parseMode_outcome "+755").2.2.2
    rw [hsign] at h
    exact h.2 (by decide +kernel)

end Validator

end UnitLint
