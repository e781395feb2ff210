import Mathlib.Data.List.TakeWhile
import UnitLint.Json.Number
import UnitLint.Proofs.Json.Grammar
import UnitLint.Proofs.Text.Spans

/-!
# Reading numbers

A number is read up to its last character, provided that what follows it is no part of a number, and
whatever is read as a number is one.
-/

namespace UnitLint.Json

variable {eof : Cause}

/-! ## Rows of digits -/

theorem EndsNumeral.endsSpan {rest : List Char} (h : EndsNumeral rest) :
    Text.EndsSpan Text.isDigit rest :=
  fun c hc => (h c hc).1

theorem readDigits_written (eof : Cause) {digits rest : List Char} (hdigits : IsDigits digits)
    (hrest : Text.EndsSpan Text.isDigit rest) :
    readDigits eof (digits ++ rest) = .ok (digits, rest) := by
  rw [readDigits, Text.takeWhile_span hdigits.2 hrest, Text.dropWhile_span hdigits.2 hrest]
  cases digits with
  | nil => exact absurd rfl hdigits.1
  | cons => rfl

theorem eq_append_of_readDigits {cs digits rest : List Char}
    (h : readDigits eof cs = .ok (digits, rest)) : IsDigits digits ∧ cs = digits ++ rest := by
  rw [readDigits] at h
  split at h
  · contradiction
  · next hne =>
    simp only [Except.ok.injEq, Prod.mk.injEq] at h
    obtain ⟨rfl, rfl⟩ := h
    refine ⟨⟨hne, fun c hc => ?_⟩, List.takeWhile_append_dropWhile.symm⟩
    exact List.mem_takeWhile_imp hc

/-! ## The parts of a number -/

theorem readWhole_written {whole rest : List Char} (hwhole : IsWhole whole)
    (hrest : Text.EndsSpan Text.isDigit rest) :
    readWhole eof (whole ++ rest) = .ok (whole, rest) := by
  cases hwhole with
  | zero => simp [readWhole, hrest.takeWhile_eq_nil]
  | @digits c cs hc hdigits =>
    obtain ⟨hfirst, hothers⟩ := List.forall_mem_cons.1 hdigits.2
    rw [List.cons_append, readWhole, if_neg hc, if_pos hfirst, Text.takeWhile_span hothers hrest,
      Text.dropWhile_span hothers hrest]

theorem eq_append_of_readWhole {cs digits rest : List Char}
    (h : readWhole eof cs = .ok (digits, rest)) : IsWhole digits ∧ cs = digits ++ rest := by
  unfold readWhole at h
  split at h
  · contradiction
  · next c cs =>
    split at h
    · next hzero =>
      split at h
      · cases h
        subst hzero
        exact ⟨.zero, rfl⟩
      · contradiction
    · next hzero =>
      split at h
      · next hdigit =>
        simp only [Except.ok.injEq, Prod.mk.injEq] at h
        obtain ⟨rfl, rfl⟩ := h
        have hdigits : ∀ d ∈ c :: cs.takeWhile Text.isDigit, Text.isDigit d :=
          List.forall_mem_cons.2 ⟨hdigit, fun d hd => List.mem_takeWhile_imp hd⟩
        refine ⟨.digits hzero ⟨List.cons_ne_nil _ _, hdigits⟩, ?_⟩
        rw [List.cons_append, List.takeWhile_append_dropWhile]
      · contradiction

theorem readFraction_written (eof : Cause) {fraction rest : List Char}
    (hfraction : IsFraction fraction)
    (hrest : Text.EndsSpan Text.isDigit rest) (hpoint : rest.head? ≠ some '.') :
    ∃ digits, readFraction eof (fraction ++ rest) = .ok (digits, rest) := by
  cases hfraction with
  | missing =>
    refine ⟨[], ?_⟩
    rw [List.nil_append, readFraction]
    rintro after rfl
    exact hpoint rfl
  | point hdigits => exact ⟨_, readDigits_written eof hdigits hrest⟩

theorem eq_append_of_readFraction {cs digits rest : List Char}
    (h : readFraction eof cs = .ok (digits, rest)) :
    ∃ fraction, IsFraction fraction ∧ cs = fraction ++ rest := by
  unfold readFraction at h
  split at h
  · obtain ⟨hdigits, rfl⟩ := eq_append_of_readDigits h
    exact ⟨_, .point hdigits, rfl⟩
  · cases h
    exact ⟨_, .missing, rfl⟩

theorem takeSign_written {sign digits : List Char} (hsign : sign ∈ [[], ['+'], ['-']])
    (hdigits : IsDigits digits) (rest : List Char) :
    (takeSign (sign ++ (digits ++ rest))).2 = digits ++ rest := by
  obtain ⟨hne, hall⟩ := hdigits
  obtain ⟨d, digits, rfl⟩ := List.exists_cons_of_ne_nil hne
  have hdigit : Text.isDigit d := hall d List.mem_cons_self
  have hplus : d ≠ '+' := by
    rintro rfl
    contradiction
  have hminus : d ≠ '-' := by
    rintro rfl
    contradiction
  simp only [List.mem_cons, List.not_mem_nil, or_false] at hsign
  rcases hsign with rfl | rfl | rfl
  · simp [takeSign, hplus, hminus]
  · rfl
  · rfl

theorem readExponent_written (eof : Cause) {exponent rest : List Char}
    (hexponent : IsExponent exponent)
    (hrest : EndsNumeral rest) :
    ∃ exponent?, readExponent eof (exponent ++ rest) = .ok (exponent?, rest) := by
  cases hexponent with
  | missing =>
    refine ⟨none, ?_⟩
    cases rest with
    | nil => rfl
    | cons c cs =>
      obtain ⟨-, -, hlower, hupper⟩ := hrest c rfl
      simp [readExponent, hlower, hupper]
  | @marked mark sign digits hmark hsign hdigits =>
    have hread := readDigits_written eof hdigits hrest.endsSpan
    rw [← takeSign_written hsign hdigits rest] at hread
    refine ⟨some ((takeSign (sign ++ (digits ++ rest))).1, digits), ?_⟩
    rw [List.cons_append, List.append_assoc, readExponent, if_pos hmark]
    simp only [hread]

theorem eq_append_takeSign (cs : List Char) :
    ∃ sign, sign ∈ [[], ['+'], ['-']] ∧ cs = sign ++ (takeSign cs).2 := by
  unfold takeSign
  split
  · exact ⟨['+'], by simp, rfl⟩
  · exact ⟨['-'], by simp, rfl⟩
  · exact ⟨[], by simp, rfl⟩

theorem eq_append_of_readExponent {cs rest : List Char} {exponent? : Option (Bool × List Char)}
    (h : readExponent eof cs = .ok (exponent?, rest)) :
    ∃ exponent, IsExponent exponent ∧ cs = exponent ++ rest := by
  unfold readExponent at h
  split at h
  · cases h
    exact ⟨_, .missing, rfl⟩
  · next mark after =>
    split at h
    · next hmark =>
      simp only [] at h
      split at h
      · contradiction
      · next digits behind hread =>
        cases h
        obtain ⟨sign, hsign, hafter⟩ := eq_append_takeSign after
        obtain ⟨hdigits, hdigitsEq⟩ := eq_append_of_readDigits hread
        refine ⟨_, .marked hmark hsign hdigits, ?_⟩
        rw [hafter, hdigitsEq]
        simp
    · cases h
      exact ⟨_, .missing, rfl⟩

/-! ## Numbers -/

theorem IsExponent.head?_append {exponent rest : List Char} (h : IsExponent exponent)
    (hrest : EndsNumeral rest) :
    Text.EndsSpan Text.isDigit (exponent ++ rest) ∧ (exponent ++ rest).head? ≠ some '.' := by
  cases h with
  | missing =>
    refine ⟨hrest.endsSpan, fun hpoint => ?_⟩
    exact (hrest '.' hpoint).2.1 rfl
  | marked hmark => rcases hmark with rfl | rfl <;> exact ⟨.cons (by decide) _, by simp⟩

theorem IsFraction.endsSpan_append {fraction rest : List Char} (h : IsFraction fraction)
    (hrest : Text.EndsSpan Text.isDigit rest) :
    Text.EndsSpan Text.isDigit (fraction ++ rest) := by
  cases h with
  | missing => exact hrest
  | point => exact .cons (by decide) _

/-- A number is read up to its end, wherever what follows is no part of it. -/
theorem readNumeral_written (eof : Cause) {form rest : List Char} (hform : IsUnsigned form)
    (hrest : EndsNumeral rest) (isNegative : Bool) :
    ∃ numeral, readNumeral eof isNegative (form ++ rest) = .ok (numeral, rest) := by
  obtain @⟨whole, fraction, exponent, hwhole, hfraction, hexponent⟩ := hform
  obtain ⟨hdigits, hpoint⟩ := hexponent.head?_append hrest
  obtain ⟨digits, hreadFraction⟩ := readFraction_written eof hfraction hdigits hpoint
  obtain ⟨exponent?, hreadExponent⟩ := readExponent_written eof hexponent hrest
  refine ⟨⟨isNegative, whole, digits, exponent?⟩, ?_⟩
  rw [List.append_assoc, List.append_assoc, readNumeral,
    readWhole_written hwhole (hfraction.endsSpan_append hdigits)]
  simp only [hreadFraction, hreadExponent]

/-- What is read as a number is one. -/
theorem eq_append_of_readNumeral {isNegative : Bool} {cs rest : List Char} {numeral : Numeral}
    (h : readNumeral eof isNegative cs = .ok (numeral, rest)) :
    ∃ form, IsUnsigned form ∧ cs = form ++ rest := by
  rw [readNumeral] at h
  split at h
  · contradiction
  · next hwhole =>
    split at h
    · contradiction
    · next hfraction =>
      split at h
      · contradiction
      · next hexponent =>
        cases h
        obtain ⟨hisWhole, rfl⟩ := eq_append_of_readWhole hwhole
        obtain ⟨fraction, hisFraction, rfl⟩ := eq_append_of_readFraction hfraction
        obtain ⟨exponent, hisExponent, rfl⟩ := eq_append_of_readExponent hexponent
        exact ⟨_, .parts hisWhole hisFraction hisExponent, by simp⟩

end UnitLint.Json
