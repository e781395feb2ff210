import UnitLint.Setting
import UnitLint.Text.Blank
import UnitLint.Text.WordChar

/-!
# Records

A line of the record table that names the validator of a setting:

    Service.Type,    config_parse_service_type,    0,    offsetof(Service, type)

The section is a capital and at least one small letter of ASCII, key and validator are words, and
something must follow the second comma. A line of any other shape is no record.
-/

namespace UnitLint

/-- A setting and the name of its validator. -/
structure Record where
  setting : Setting
  validator : String
  deriving DecidableEq, Repr

namespace Record

/-- Whether a character is a capital of ASCII. -/
def isCapital (c : Char) : Bool := 'A' ≤ c && c ≤ 'Z'

/-- Whether a character is a small letter of ASCII. -/
def isSmall (c : Char) : Bool := 'a' ≤ c && c ≤ 'z'

/-- Splits a non-empty row of characters of one kind off a text. -/
def takeSome? (kind : Char → Bool) (cs : List Char) : Option (List Char × List Char) :=
  match cs.takeWhile kind with
  | [] => none
  | taken => some (taken, cs.dropWhile kind)

/-- Removes a character from the front of a text. -/
def drop? (c : Char) : List Char → Option (List Char)
  | [] => none
  | d :: cs => if d = c then some cs else none

/-- Reads a line of the table. -/
def ofLine? (line : String) : Option Record := do
  let (capital, cs) ← match line.toList with
    | [] => none
    | c :: cs => if isCapital c then some (c, cs) else none
  let (small, cs) ← takeSome? isSmall cs
  let cs ← drop? '.' cs
  let (key, cs) ← takeSome? Text.isWordChar cs
  let cs ← drop? ',' cs
  let (validator, cs) ← takeSome? Text.isWordChar (cs.dropWhile Text.isBlank)
  let rest ← drop? ',' (cs.dropWhile Text.isBlank)
  if rest = [] ∨ '\n' ∈ rest then none
  else
    some {
      setting := { sectionName := String.ofList (capital :: small), key := String.ofList key }
      validator := String.ofList validator }

end Record

end UnitLint
