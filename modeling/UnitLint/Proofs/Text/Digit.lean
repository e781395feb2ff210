import UnitLint.Text.Digit

/-!
# Digits, numerals and case

Which characters are digits of a base, when a row of them is a numeral, and which character is which
letter in lower case. Characters are compared by their code points, so each question comes down to
arithmetic.
-/

namespace UnitLint.Text

theorem le_iff_toNat_le (a b : Char) : a ≤ b ↔ a.toNat ≤ b.toNat := by
  rw [Char.le_def, UInt32.le_iff_toNat_le]
  rfl

theorem isDigit_iff (c : Char) : isDigit c ↔ '0'.toNat ≤ c.toNat ∧ c.toNat ≤ '9'.toNat := by
  rw [isDigit, Bool.and_eq_true, decide_eq_true_eq, decide_eq_true_eq, le_iff_toNat_le,
    le_iff_toNat_le]

theorem digit?_eight_eq_some_iff {c : Char} {digit : Nat} :
    digit? 8 c = some digit ↔ ('0' ≤ c ∧ c ≤ '7') ∧ digit = c.toNat - '0'.toNat := by
  simp only [digit?, le_iff_toNat_le, Char.reduceToNat, Option.filter_eq_some_iff,
    decide_eq_true_eq]
  split
  · simp only [Option.some.injEq]
    omega
  · split
    · simp only [Option.some.injEq]
      omega
    · split
      · simp only [Option.some.injEq]
        omega
      · simp only [reduceCtorEq, false_and, false_iff]
        omega

theorem isSome_digit?_eight_iff (c : Char) : (digit? 8 c).isSome ↔ '0' ≤ c ∧ c ≤ '7' := by
  simp only [Option.isSome_iff_exists, digit?_eight_eq_some_iff, exists_and_left, exists_eq,
    and_true]

/-- A row of characters is a numeral if each of them is a digit. -/
theorem isSome_numeral?_iff (base : Nat) (cs : List Char) :
    (numeral? base cs).isSome ↔ ∀ c ∈ cs, (digit? base c).isSome := by
  rw [numeral?, Option.isSome_map]
  induction cs with
  | nil => simp
  | cons c cs ih =>
    rw [List.forall_mem_cons, ← ih, List.mapM_cons]
    cases digit? base c <;> cases cs.mapM (digit? base) <;> simp

/-- Lower case moves the capital letters of ASCII and nothing else. -/
theorem toNat_toLower (c : Char) :
    c.toLower.toNat =
      if 'A'.toNat ≤ c.toNat ∧ c.toNat ≤ 'Z'.toNat then c.toNat + 32 else c.toNat := by
  have hcapital :
      c.val ≥ 'A'.val ∧ c.val ≤ 'Z'.val ↔ 'A'.toNat ≤ c.toNat ∧ c.toNat ≤ 'Z'.toNat := by
    rw [ge_iff_le, UInt32.le_iff_toNat_le, UInt32.le_iff_toNat_le]
    rfl
  unfold Char.toLower
  split
  · next h =>
    have hrange := hcapital.1 h
    rw [if_pos hrange]
    show (c.val + ('a'.val - 'A'.val)).toNat = c.val.toNat + 32
    have hz : c.val.toNat ≤ 90 := hrange.2
    have hshift : ('a'.val - 'A'.val).toNat = 32 := rfl
    rw [UInt32.toNat_add, hshift]
    omega
  · next h => rw [if_neg fun hrange => h (hcapital.2 hrange)]

end UnitLint.Text
