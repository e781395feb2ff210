import UnitLint.Text.Blank
import UnitLint.Validator.Rejection

/-!
# Booleans

The words that say yes and the words that say no. Only letters of ASCII may differ in case, so a
letter that merely looks like one of them is not accepted.
-/

namespace UnitLint.Validator

/-- The words that say yes, in lower case. -/
def trueWords : List String := ["1", "yes", "y", "true", "t", "on"]

/-- The words that say no, in lower case. -/
def falseWords : List String := ["0", "no", "n", "false", "f", "off"]

/-- Text with the letters of ASCII in lower case. -/
def lowerCase (text : String) : String :=
  String.ofList (text.toList.map Char.toLower)

/-- Reads a boolean. -/
def parseBoolean (value : String) : Except Rejection Bool :=
  let word := Text.trim value
  if lowerCase word ∈ trueWords then .ok true
  else if lowerCase word ∈ falseWords then .ok false
  else .error (.notBoolean word)

end UnitLint.Validator
