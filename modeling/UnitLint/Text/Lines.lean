/-!
# Lines

A line ends at a line feed, and a carriage return directly before that line feed belongs to the
ending. The last line needs no ending, and a carriage return at the end of the text is then part of
the line. A text that ends in a line feed has no further empty line.
-/

namespace UnitLint.Text

/-- A line read backwards, without a carriage return at its end. -/
def dropReturn : List Char → List Char
  | '\r' :: line => line
  | line => line

/-- The lines of a text, where `line` holds the characters of an open line, the latest first. -/
def linesFrom (line : List Char) : List Char → List (List Char)
  | [] => if line.isEmpty then [] else [line.reverse]
  | c :: cs =>
    if c = '\n' then (dropReturn line).reverse :: linesFrom [] cs else linesFrom (c :: line) cs

/-- The lines of a text, without their endings. -/
def lines (text : String) : List String :=
  (linesFrom [] text.toList).map String.ofList

end UnitLint.Text
