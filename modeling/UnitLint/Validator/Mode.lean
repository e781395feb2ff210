import UnitLint.Text.Blank
import UnitLint.Text.Digit
import UnitLint.Validator.Rejection

/-!
# File modes

An access mode of a file: three or four octal digits.
-/

namespace UnitLint.Validator

/-- Reads a file mode. -/
def parseMode (value : String) : Except Rejection Nat :=
  let word := Text.trim value
  let digits := word.toList
  if digits.all Text.isDigit ∧ (digits.length = 3 ∨ digits.length = 4) then
    match Text.numeral? 8 digits with
    | some mode => .ok mode
    | none => .error (.notOctal word)
  else
    .error (.notMode word)

end UnitLint.Validator
