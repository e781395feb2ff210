/-!
# White space

The characters of the Unicode property White_Space, and text without the blanks at its ends. The
whole property counts: a no-break or ideographic space around a value is as invisible as a plain
space. A zero-width space is not one of them.
-/

namespace UnitLint.Text

/-- Whether a character has the Unicode property White_Space. -/
def isBlank (c : Char) : Bool :=
  ('\t' ≤ c && c ≤ '\r') || c == ' ' || c == '\u0085' || c == '\u00a0' || c == '\u1680' ||
    ('\u2000' ≤ c && c ≤ '\u200a') || c == '\u2028' || c == '\u2029' || c == '\u202f' ||
    c == '\u205f' || c == '\u3000'

/-- Characters without the blanks before the first and after the last that is none. -/
def trimChars (cs : List Char) : List Char :=
  ((cs.dropWhile isBlank).reverse.dropWhile isBlank).reverse

/-- Text without the blanks at its ends. -/
def trim (text : String) : String :=
  String.ofList (trimChars text.toList)

@[simp] theorem toList_trim (text : String) : (trim text).toList = trimChars text.toList :=
  String.toList_ofList

end UnitLint.Text
