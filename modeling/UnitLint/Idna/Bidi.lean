import UnitLint.Idna.Bidi.Table

/-!
# Direction of labels

In a host name with characters that run from right to left, each label must run in one direction:
its first character fixes the direction, the others must fit it, and the last must not leave the
direction of what follows in doubt. Marks at the end count as part of the character they sit on.
-/

namespace UnitLint.Idna

/-- The bidirectional class of a character. -/
def bidiClass (c : Char) : BidiClass :=
  ((bidiRanges.find? fun (_, ranges) =>
    Unicode.CodeRange.anyHolds ranges c.toNat).map Prod.fst).getD .leftToRight

/-- Whether a character brings right-to-left order into a host name. No character before the Hebrew
block does. -/
def isRightToLeft (c : Char) : Bool :=
  '\u0590' ≤ c &&
    (bidiClass c == .rightToLeft || bidiClass c == .arabicLetter || bidiClass c == .arabicNumber)

/-- The classes that may stand in a label of either direction. -/
def neutralClasses : List BidiClass :=
  [.europeanNumber, .europeanSeparator, .commonSeparator, .europeanTerminator, .otherNeutral,
    .boundaryNeutral, .nonspacingMark]

/-- Whether a label that starts from left to right keeps to it. The classes behind the first
character are given backwards, marks at the end left out. -/
def keepsLeftToRight : List BidiClass → Bool
  | [] => true
  | last :: middle =>
    (last == .leftToRight || last == .europeanNumber) &&
      middle.all fun kind => kind == .leftToRight || neutralClasses.contains kind

/-- Whether a label that starts from right to left keeps to it and to one kind of numbers. -/
def keepsRightToLeft : List BidiClass → Bool
  | [] => true
  | last :: middle =>
    (last == .rightToLeft || last == .arabicLetter || last == .europeanNumber ||
        last == .arabicNumber) &&
      (middle.all fun kind => kind == .rightToLeft || kind == .arabicLetter ||
        kind == .arabicNumber || neutralClasses.contains kind) &&
      !((last :: middle).contains .europeanNumber && (last :: middle).contains .arabicNumber)

/-- Whether a label runs in one direction. The empty label does. -/
def runsOneWay (label : List Char) : Bool :=
  match label.map bidiClass with
  | [] => true
  | first :: rest =>
    let backwards := rest.reverse.dropWhile (· == .nonspacingMark)
    match first with
    | .leftToRight => keepsLeftToRight backwards
    | .rightToLeft => keepsRightToLeft backwards
    | .arabicLetter => keepsRightToLeft backwards
    | _ => false

end UnitLint.Idna
