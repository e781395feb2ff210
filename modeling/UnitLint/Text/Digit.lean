/-!
# Digits and numerals

The value of a digit in a base up to thirty-six and the number that a row of digits stands for.
Letters count from ten in either case, so one reader serves hexadecimal escapes, octal modes and
the numbers of addresses.
-/

namespace UnitLint.Text

/-- The value of a digit or letter of the given base. -/
def digit? (base : Nat) (c : Char) : Option Nat :=
  let value? :=
    if '0' ≤ c ∧ c ≤ '9' then some (c.toNat - '0'.toNat)
    else if 'a' ≤ c ∧ c ≤ 'z' then some (c.toNat - 'a'.toNat + 10)
    else if 'A' ≤ c ∧ c ≤ 'Z' then some (c.toNat - 'A'.toNat + 10)
    else none
  value?.filter (· < base)

/-- Whether a character is one of the ten decimal digits of ASCII. -/
def isDigit (c : Char) : Bool := '0' ≤ c && c ≤ '9'

/-- The number that a row of digits stands for, the first digit weighing most. -/
def ofDigits (base : Nat) (digits : List Nat) : Nat :=
  digits.foldl (fun value digit => value * base + digit) 0

/-- Reads a whole text as digits of one base. The empty text is zero. -/
def numeral? (base : Nat) (cs : List Char) : Option Nat :=
  (cs.mapM (digit? base)).map (ofDigits base)

end UnitLint.Text
