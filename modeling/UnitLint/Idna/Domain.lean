import UnitLint.Idna.Bidi
import UnitLint.Idna.Joining
import UnitLint.Idna.Mapping
import UnitLint.Idna.Punycode

/-!
# Domain names

A domain name is read from bytes into its labels, each in the form a reader would see: in lower
case, mapped and composed, with the ASCII form of a label decoded. Labels of plain ASCII need no
table at all. Whatever cannot be a label of a domain name makes the whole name unreadable.
-/

namespace UnitLint.Idna

/-- The characters of ASCII that the host of an address may not hold, even in encoded form: control
characters, the space, and those with a meaning in addresses. -/
def isForbidden (c : Char) : Bool :=
  c ≤ ' ' || c == '\x7f' || "%#/:<>?@[\\]^|".toList.contains c

/-- The greatest length of the text after `xn--` that is decoded. -/
def maxEncodedLength : Nat := 2000

/-- The greatest length of a label beyond ASCII that has an ASCII form. -/
def maxLabelLength : Nat := 1000

/-- Whether all characters are of ASCII. -/
def isAscii (cs : List Char) : Bool :=
  cs.all (· < '\u0080')

/-- Whether a label that holds characters beyond ASCII may stand: it starts with no mark, its
joiners are placed, and it is not too long. -/
def isLabel (label : List Char) : Bool :=
  (match label with
    | [] => true
    | c :: _ => !Unicode.CodeRange.anyHolds markRanges c.toNat) &&
    joinersPlaced [] label && (isAscii label || label.length ≤ maxLabelLength)

/-- What follows the marker of an encoded label, whose case does not matter. -/
def encodedPart? (label : List Char) : Option (List Char) :=
  if (label.take 4).map Char.toLower = ['x', 'n', '-', '-'] then some (label.drop 4) else none

/-- The label that an encoded part stands for. It must be what mapping and composing would give, so
that each label has one encoded form. -/
def decodeLabel? (part : List Char) : Option (List Char) :=
  if part.getLast? = some '-' ∨ part = [] ∨ maxEncodedLength < part.length ∨
      ¬ isAscii part then
    none
  else
    match Punycode.decode? part with
    | none => none
    | some label =>
      if (mapChars label).map normalize = some label ∧ ¬ label.any isForbidden ∧
          '.' ∉ label ∧ isLabel label then
        some label
      else
        none

/-- Reads a label of plain ASCII. -/
def readAsciiLabel? (label : List Char) : Option (List Char) :=
  match encodedPart? label with
  | some part => decodeLabel? part
  | none =>
    let label := label.map Char.toLower
    if label.any isForbidden then none else some label

/-- Reads a label that mapping and composing have brought into its form. -/
def readMappedLabel? (label : List Char) : Option (List Char) :=
  match encodedPart? label with
  | some part => decodeLabel? part
  | none => if isLabel label then some label else none

/-- Reads the text between two dots. A full stop of another script is mapped to a dot, so the text
may turn out to be several labels. -/
def readLabels? (text : List Char) : Option (List (List Char)) :=
  if isAscii text then
    (readAsciiLabel? text).map ([·])
  else
    match (mapChars text).map normalize with
    | none => none
    | some mapped =>
      if mapped.any isForbidden then none
      else (mapped.splitOn '.').mapM readMappedLabel?

/-- The labels of a domain name given as bytes, or none when it is not one. -/
def readDomain? (bytes : List UInt8) : Option (List (List Char)) :=
  match (String.fromUTF8? bytes.toByteArray).map String.toList with
  | none => none
  | some text =>
    match ((text.splitOn '.').mapM readLabels?).map List.flatten with
    | none => none
    | some labels =>
      if labels.any (·.any isRightToLeft) ∧ ¬ labels.all runsOneWay then none
      else some labels

end UnitLint.Idna
