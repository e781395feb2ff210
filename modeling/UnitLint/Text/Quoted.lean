import UnitLint.Text.Quoted.Table

/-!
# Quoted text

Text between double quotes on one line, in which nothing is invisible: a quote or a backslash is
preceded by a backslash, tab, line feed, carriage return and NUL have their short forms, and any
other character that leaves no mark of its own is given by its number.
-/

namespace UnitLint.Text

/-- The lower-case hexadecimal digits of a number. -/
def hexDigits (n : Nat) : List Char :=
  Nat.toDigits 16 n

/-- One character of a quotation. -/
def quoteChar (c : Char) : List Char :=
  if c = '\x00' then ['\\', '0']
  else if c = '\t' then ['\\', 't']
  else if c = '\r' then ['\\', 'r']
  else if c = '\n' then ['\\', 'n']
  else if c = '"' ∨ c = '\\' then ['\\', c]
  else if Unicode.CodeRange.anyHolds hiddenRanges c.toNat then
    ['\\', 'u', '\x7b'] ++ hexDigits c.toNat ++ ['\x7d']
  else [c]

/-- The text as a quotation. -/
def quoted (text : String) : String :=
  String.ofList ('"' :: text.toList.flatMap quoteChar ++ ['"'])

end UnitLint.Text
