import UnitLint.Text.WordChar.Table

/-!
# Word characters

What counts as part of a name: letters, marks, decimal digits, connecting punctuation such as the
underscore, and the two zero-width joiners, in any script.
-/

namespace UnitLint.Text

/-- Whether a character can be part of a name. -/
def isWordChar (c : Char) : Bool :=
  wordRanges.any fun (first, last) => first ≤ c.toNat && c.toNat ≤ last

end UnitLint.Text
