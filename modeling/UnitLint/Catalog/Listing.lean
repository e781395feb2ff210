import UnitLint.Catalog.Keyword

/-!
# Listings

A listing names sections and their keys in the order in which a text gives them, with repetitions.
It is written with one fact a line and every fact given; reading accepts any layout.
-/

namespace UnitLint

/-- Sections with their keys, in order. -/
abbrev Listing := List (String × List (String × Keyword))

namespace Listing

/-- The reader of listings. -/
def reader : Json.Reader Listing := Keyword.reader.pairs.pairs

/-- Reads a listing. -/
def ofText (text : String) : Except Json.Error Listing :=
  reader.readText text

/-- A character inside a written string. -/
def encodeChar (c : Char) : List Char :=
  if c = '"' ∨ c = '\\' then ['\\', c]
  else if c < ' ' then
    ['\\', 'u', '0', '0', Nat.digitChar (c.toNat / 16), Nat.digitChar (c.toNat % 16)]
  else [c]

/-- A written string. -/
def encodeString (text : String) : List Char :=
  '"' :: text.toList.flatMap encodeChar ++ ['"']

/-- A written fact. -/
def encodeNullable : Option String → List Char
  | none => ['n', 'u', 'l', 'l']
  | some text => encodeString text

/-- A line break with some steps of indentation. -/
def newLine (depth : Nat) : List Char :=
  '\n' :: List.replicate (2 * depth) ' '

/-- Written members of an object that lies at a depth. -/
def encodeMembers {α : Type} (depth : Nat) (encode : α → List Char) :
    List (String × α) → List Char
  | [] => []
  | [(key, value)] => newLine depth ++ encodeString key ++ [':', ' '] ++ encode value
  | (key, value) :: members =>
    newLine depth ++ encodeString key ++ [':', ' '] ++ encode value ++
      ',' :: encodeMembers depth encode members

/-- A written object whose members lie at a depth. -/
def encodeObject {α : Type} (depth : Nat) (encode : α → List Char)
    (members : List (String × α)) : List Char :=
  if members.isEmpty then ['\x7b', '\x7d']
  else '\x7b' :: encodeMembers depth encode members ++ newLine (depth - 1) ++ ['\x7d']

/-- The facts about a key, by their names. -/
def factsOf (keyword : Keyword) : List (String × Option String) :=
  [(Keyword.Field.anchor.name, keyword.anchor?), (Keyword.Field.manual.name, keyword.manual?)]

/-- A written listing. -/
def encode (listing : Listing) : List Char :=
  encodeObject 1 (encodeObject 2 fun keyword =>
    encodeObject 3 encodeNullable (factsOf keyword)) listing

/-- Writes a listing. -/
def toText (listing : Listing) : String :=
  String.ofList (encode listing)

end Listing

end UnitLint
