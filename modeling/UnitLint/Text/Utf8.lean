/-!
# UTF-8

How many bytes characters take, and where a byte sequence stops being UTF-8. A defect is located by
the start of the character that cannot be completed and, unless the bytes simply end there, by how
many of its bytes belong together before the next character may start.
-/

namespace UnitLint.Text

/-- The number of bytes that encode the characters. -/
def byteLength (cs : List Char) : Nat :=
  cs.foldl (fun total c => total + c.utf8Size) 0

namespace Utf8

/-- The first place at which bytes are not UTF-8. -/
structure Defect where
  /-- The number of well-formed bytes before it. -/
  start : Nat
  /-- The number of bytes to step over; none when the bytes end inside a character. -/
  length : Option Nat
  deriving DecidableEq, Repr

/-- The wording of a defect. -/
def Defect.message (defect : Defect) : String :=
  match defect.length with
  | some length =>
    "invalid utf-8 sequence of " ++ toString length ++ " bytes from index " ++
      toString defect.start
  | none => "incomplete utf-8 byte sequence from index " ++ toString defect.start

/-- The bytes that continue any character. -/
def tail : UInt8 × UInt8 := (0x80, 0xBF)

/-- The ranges of the bytes that must follow the first byte of a character, or none when the byte
starts no character. The second byte is restricted where the encoding would be too long, would
give a surrogate, or would pass the last code point. -/
def following? (lead : UInt8) : Option (List (UInt8 × UInt8)) :=
  if lead ≤ 0x7F then some []
  else if 0xC2 ≤ lead ∧ lead ≤ 0xDF then some [tail]
  else if lead = 0xE0 then some [(0xA0, 0xBF), tail]
  else if lead = 0xED then some [(0x80, 0x9F), tail]
  else if 0xE1 ≤ lead ∧ lead ≤ 0xEF then some [tail, tail]
  else if lead = 0xF0 then some [(0x90, 0xBF), tail, tail]
  else if 0xF1 ≤ lead ∧ lead ≤ 0xF3 then some [tail, tail, tail]
  else if lead = 0xF4 then some [(0x80, 0x8F), tail, tail]
  else none

/-- Scans on from a character that started at `start`, of which `seen` bytes are read and the bytes
in `owed` are still to come. -/
def scan (start seen : Nat) (owed : List (UInt8 × UInt8)) : List UInt8 → Option Defect
  | [] => if owed.isEmpty then none else some ⟨start, none⟩
  | byte :: bytes =>
    match owed with
    | [] =>
      match following? byte with
      | none => some ⟨start + seen, some 1⟩
      | some owed => scan (start + seen) 1 owed bytes
    | (low, high) :: owed =>
      if low ≤ byte ∧ byte ≤ high then scan start (seen + 1) owed bytes
      else some ⟨start, some seen⟩

/-- The first defect of the bytes, if they are not UTF-8. -/
def defect? (bytes : List UInt8) : Option Defect :=
  scan 0 0 [] bytes

end Utf8

end UnitLint.Text
