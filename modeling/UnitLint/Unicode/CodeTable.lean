import UnitLint.Text.Digit

/-!
# Tables of code points

Properties of characters are kept as text in the manner of the standard's own data files: code
points in hexadecimal, a closed range as `first-last`, a replacement as `source>target`, entries
separated by blanks. This module reads such text and looks code points up in what it has read.
Every lookup is a scan from the start, which serves well for texts as short as a host name.
-/

namespace UnitLint.Unicode

/-- A closed range of code points. -/
structure CodeRange where
  first : Nat
  last : Nat
  deriving DecidableEq, Repr

/-- Whether one of the ranges holds the code point. -/
def CodeRange.anyHolds (ranges : List CodeRange) (code : Nat) : Bool :=
  ranges.any fun range => range.first ≤ code && code ≤ range.last

/-- Code points `first`, `first + step`, … up to `last`, and what stands in place of each. A
target of one code point moves along with the source; a longer target belongs to one source. -/
structure Replacement where
  first : Nat
  last : Nat
  step : Nat
  target : List Nat
  deriving DecidableEq, Repr

/-- What stands in place of a code point, when the entry covers it. -/
def Replacement.imageOf? (entry : Replacement) (code : Nat) : Option (List Nat) :=
  if entry.first ≤ code ∧ code ≤ entry.last ∧ (code - entry.first) % entry.step = 0 then
    some (entry.target.map (· + (code - entry.first)))
  else
    none

/-- The entries of a table in its text form. -/
def entries (text : String) : List (List Char) :=
  (text.toList.splitOnP fun c => c = ' ' ∨ c = '\n').filter (· ≠ [])

/-- A code point in hexadecimal. A character that is no digit counts as zero. -/
def codeOfHex (digits : List Char) : Nat :=
  Text.ofDigits 16 (digits.map fun c => (Text.digit? 16 c).getD 0)

/-- Reads one code point or a range `first-last`. -/
def readRange (entry : List Char) : CodeRange :=
  match entry.splitOn '-' with
  | [first, last] => ⟨codeOfHex first, codeOfHex last⟩
  | _ => ⟨codeOfHex entry, codeOfHex entry⟩

/-- Reads a table of ranges. -/
def readRanges (text : String) : List CodeRange :=
  (entries text).map readRange

/-- Reads `source>target`. The source is a code point, a range `first-last` or every other code
point `first~last`; the target is one code point or several with `+` between them. -/
def readReplacement (entry : List Char) : Replacement :=
  let source := entry.takeWhile (· ≠ '>')
  let target := ((entry.dropWhile (· ≠ '>')).drop 1).splitOn '+'
  let (range, step) := match source.splitOn '~' with
    | [first, last] => (CodeRange.mk (codeOfHex first) (codeOfHex last), 2)
    | _ => (readRange source, 1)
  ⟨range.first, range.last, step, target.map codeOfHex⟩

/-- Reads a table of replacements. -/
def readReplacements (text : String) : List Replacement :=
  (entries text).map readReplacement

end UnitLint.Unicode
