/-!
# From decimal digits to doubles

The double that is taken for a significand and a power of ten. The significand is rounded to a
double first, and the power, itself a double, is multiplied or divided in with one more rounding,
so the result may differ in its last bit from the double nearest to the decimal. Powers beyond the
range of doubles are applied in steps, and a result beyond the range is refused.
-/

namespace UnitLint.Decimal

/-- The greatest exponent of ten whose power is a double. -/
def maxPower : Nat := 308

/-- The double nearest to a power of ten. -/
def powerOfTen (exponent : Nat) : Float := Float.ofScientific 1 false exponent

/-- Divides by a power of ten, in steps that are doubles themselves. -/
def divideByPower (value : Float) (exponent : Nat) : Float :=
  if exponent ≤ maxPower then value / powerOfTen exponent
  else if value == 0 then value
  else divideByPower (value / powerOfTen maxPower) (exponent - maxPower)
termination_by exponent
decreasing_by simp only [maxPower] at *; omega

/-- The double taken for `significand · 10 ^ exponent`, where the significand is below `2 ^ 64`. -/
def readFloat? (significand : Nat) (exponent : Int) : Option Float :=
  let value := significand.toUInt64.toFloat
  match exponent with
  | .negSucc n => some (divideByPower value (n + 1))
  | .ofNat n =>
    if n ≤ maxPower then
      let product := value * powerOfTen n
      if product.isInf then none else some product
    else if value == 0 then some value
    else none

end UnitLint.Decimal
