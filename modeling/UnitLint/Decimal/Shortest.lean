/-!
# The shortest decimal of a double

The decimal with the fewest digits that is nearer to a given double than to any other, and of those
the nearest to it. A double is `mantissa · 2 ^ exponent`; the decimals nearer to it than to its
neighbours form an interval, whose ends belong to it when the mantissa is even. On the grid of
decimals with a given number of digits only the two neighbours of the double need to be looked at,
and all comparisons are between natural numbers.
-/

namespace UnitLint.Decimal

/-- A positive double, `mantissa · 2 ^ exponent`. `lowerGap` is the distance to the double below,
in quarters of the distance to the double above. -/
structure Binary where
  mantissa : Nat
  exponent : Int
  lowerGap : Nat
  deriving DecidableEq, Repr

/-- One past the largest fraction, which fills the last 52 bits of a double. -/
def fractionLimit : Nat := 0x10000000000000

/-- One past the largest exponent, which fills the 11 bits before the fraction. -/
def exponentLimit : Nat := 0x800

/-- The magnitude of a finite double; the mantissa of zero is zero. -/
def Binary.ofFloat (value : Float) : Binary :=
  let bits : Nat := value.toBits.toNat
  let fraction : Nat := bits % fractionLimit
  let biased : Nat := bits / fractionLimit % exponentLimit
  if biased = 0 then ⟨fraction, -1074, 4⟩
  else
    { mantissa := fractionLimit + fraction
      exponent := (biased : Int) - 1075
      lowerGap := if fraction = 0 ∧ biased ≠ 1 then 2 else 4 }

/-- A decimal, `digits · 10 ^ exponent`. -/
structure Scaled where
  digits : Nat
  exponent : Int
  deriving DecidableEq, Repr

/-- A power with a possibly negative exponent, as numerator and denominator. -/
def powerParts (base : Nat) (exponent : Int) : Nat × Nat :=
  (Nat.pow base exponent.toNat, Nat.pow base (-exponent).toNat)

/-- The exponent of the first digit of `numerator / denominator`. -/
def leadingExponent (numerator denominator : Nat) : Int :=
  if denominator ≤ numerator then ((Nat.toDigits 10 (numerator / denominator)).length : Int) - 1
  else
    match (List.range 400).find? fun n => denominator ≤ numerator * Nat.pow 10 n with
    | some n => -(n : Int)
    | none => 0

/-- The decimal nearest to a double on the grid with steps of `10 ^ exponent`, if one of the grid is
nearer to the double than to its neighbours. The even one of two that are as near is taken. -/
def onGrid? (value : Binary) (exponent : Int) : Option Scaled :=
  let (twos, halves) := powerParts 2 value.exponent
  let (tens, tenths) := powerParts 10 exponent
  -- all quantities in units of `2 ^ value.exponent / 8`, times `twos * tenths`
  let unit := twos * tenths
  let step := 8 * halves * tens
  let middle := 8 * value.mantissa * unit
  let low := middle - value.lowerGap * unit
  let high := middle + 4 * unit
  let holds (digits : Nat) : Bool :=
    let point := digits * step
    (low < point && point < high) ||
      (value.mantissa % 2 == 0 && (point == low || point == high))
  let below := middle / step
  let above := below + 1
  match holds below, holds above with
  | true, true =>
    let down := middle - below * step
    let up := above * step - middle
    if down < up ∨ (down = up ∧ below % 2 = 0) then some ⟨below, exponent⟩
    else some ⟨above, exponent⟩
  | true, false => some ⟨below, exponent⟩
  | false, true => some ⟨above, exponent⟩
  | false, false => none

/-- The number of digits that always suffices. -/
def maxDigits : Nat := 17

/-- The shortest decimal of a positive double. -/
def shortest (value : Binary) : Scaled :=
  let (twos, halves) := powerParts 2 value.exponent
  let leading := leadingExponent (value.mantissa * twos) halves
  let grid (n : Nat) := onGrid? value (leading - (n : Int))
  ((List.range maxDigits).findSome? grid).getD ⟨0, 0⟩

/-- Removes zeros from the end of a decimal's digits. -/
def Scaled.stripZeros (fuel : Nat) (decimal : Scaled) : Scaled :=
  match fuel with
  | 0 => decimal
  | fuel + 1 =>
    if decimal.digits % 10 = 0 ∧ decimal.digits ≠ 0 then
      Scaled.stripZeros fuel ⟨decimal.digits / 10, decimal.exponent + 1⟩
    else
      decimal

end UnitLint.Decimal
