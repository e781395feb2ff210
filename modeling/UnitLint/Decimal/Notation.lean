import UnitLint.Decimal.Shortest

/-!
# How doubles are written

A double is written with the digits of its shortest decimal: in positional notation while the first
digit is neither too far in front of nor too far behind the point, else with an exponent. Positional
notation has a digit on either side of the point; an exponent carries its sign and no leading zero.
-/

namespace UnitLint.Decimal

/-- The least exponent of the first digit in positional notation. -/
def minPositional : Int := -5

/-- The greatest exponent of the first digit in positional notation. -/
def maxPositional : Int := 15

/-- An exponent behind its `e`. -/
def exponentText (exponent : Int) : List Char :=
  (if exponent < 0 then '-' else '+') :: Nat.toDigits 10 exponent.natAbs

/-- A row of digits of which the first has the given exponent. -/
def layOut (digits : List Char) (leading : Int) : List Char :=
  if leading < minPositional ∨ maxPositional < leading then
    match digits with
    | [] => []
    | [digit] => digit :: 'e' :: exponentText leading
    | digit :: rest => digit :: '.' :: rest ++ 'e' :: exponentText leading
  else if leading < 0 then
    ['0', '.'] ++ List.replicate (leading.natAbs - 1) '0' ++ digits
  else
    let whole := leading.toNat + 1
    if digits.length ≤ whole then
      digits ++ List.replicate (whole - digits.length) '0' ++ ['.', '0']
    else
      digits.take whole ++ '.' :: digits.drop whole

/-- How a finite double is written. -/
def floatText (value : Float) : String :=
  let sign := if fractionLimit * exponentLimit ≤ value.toBits.toNat then ['-'] else []
  let binary := Binary.ofFloat value
  let body :=
    if binary.mantissa = 0 then ['0', '.', '0']
    else
      let decimal := (shortest binary).stripZeros maxDigits
      let digits := Nat.toDigits 10 decimal.digits
      layOut digits (decimal.exponent + digits.length - 1)
  String.ofList (sign ++ body)

end UnitLint.Decimal
