import UnitLint.Text.Quoted
import UnitLint.Text.Utf8

/-!
# Faults of JSON text

What can be wrong with JSON text, and where. A place is kept as the number of bytes behind it, which
a reader knows from the text it still has to read; line and column follow once the whole text is at
hand. Columns count bytes.
-/

namespace UnitLint.Json

/-- A kind of value, met where another was expected. -/
inductive Found where
  | null
  | boolean (value : Bool)
  | integer (value : Int)
  /-- A number that is no 64-bit integer, in its shortest notation. -/
  | float (text : String)
  | string (value : String)
  | sequence
  | map
  deriving DecidableEq, Repr

/-- How a message names what was met. -/
def Found.description : Found → String
  | null => "null"
  | boolean value => "boolean `" ++ toString value ++ "`"
  | integer value => "integer `" ++ toString value ++ "`"
  | float text => "floating point `" ++ text ++ "`"
  | string value => "string " ++ Text.quoted value
  | sequence => "sequence"
  | map => "map"

/-- What is wrong. -/
inductive Cause where
  | eofInList
  | eofInObject
  | eofInString
  | eofInValue
  | expectedColon
  | expectedListCommaOrEnd
  | expectedObjectCommaOrEnd
  | expectedIdent
  | expectedValue
  | invalidEscape
  | invalidNumber
  | numberOutOfRange
  | controlCharacter
  | keyNotString
  | loneSurrogate
  | unfinishedSurrogate
  | trailingComma
  | trailingCharacters
  | invalidType (found : Found) (expected : String)
  | duplicateField (name : String)
  deriving DecidableEq, Repr

/-- How a message words what is wrong. -/
def Cause.message : Cause → String
  | eofInList => "EOF while parsing a list"
  | eofInObject => "EOF while parsing an object"
  | eofInString => "EOF while parsing a string"
  | eofInValue => "EOF while parsing a value"
  | expectedColon => "expected `:`"
  | expectedListCommaOrEnd => "expected `,` or `]`"
  | expectedObjectCommaOrEnd => "expected `,` or `\x7d`"
  | expectedIdent => "expected ident"
  | expectedValue => "expected value"
  | invalidEscape => "invalid escape"
  | invalidNumber => "invalid number"
  | numberOutOfRange => "number out of range"
  | controlCharacter => "control character (\\u0000-\\u001F) found while parsing a string"
  | keyNotString => "key must be a string"
  | loneSurrogate => "lone leading surrogate in hex escape"
  | unfinishedSurrogate => "unexpected end of hex escape"
  | trailingComma => "trailing comma"
  | trailingCharacters => "trailing characters"
  | invalidType found expected =>
    "invalid type: " ++ found.description ++ ", expected " ++ expected
  | duplicateField name => "duplicate field `" ++ name ++ "`"

/-- What is wrong, and how many bytes lie behind the place. -/
structure Fault where
  cause : Cause
  behind : Nat
  deriving DecidableEq, Repr

namespace Fault

/-- A fault at the front of the text still to be read. -/
def here (cause : Cause) (rest : List Char) : Fault :=
  ⟨cause, Text.byteLength rest⟩

/-- A fault in the next byte of the text still to be read, or at the end if nothing is left. -/
def next (cause : Cause) (rest : List Char) : Fault :=
  ⟨cause, Text.byteLength rest - 1⟩

end Fault

/-- A place in a text. Lines count from one, columns from zero. -/
structure Position where
  line : Nat
  column : Nat
  deriving DecidableEq, Repr

/-- The place that lies some bytes further on in a text. -/
def Position.advance (position : Position) (bytes : Nat) : List Char → Position
  | [] => position
  | c :: cs =>
    if bytes < c.utf8Size then ⟨position.line, position.column + bytes⟩
    else if c = '\n' then advance ⟨position.line + 1, 0⟩ (bytes - c.utf8Size) cs
    else advance ⟨position.line, position.column + c.utf8Size⟩ (bytes - c.utf8Size) cs

/-- Where a fault lies in the text it was found in. -/
def Fault.position (fault : Fault) (text : List Char) : Position :=
  (⟨1, 0⟩ : Position).advance (Text.byteLength text - fault.behind) text

/-- What is wrong, and at which place of a text. -/
structure Error where
  cause : Cause
  position : Position
  deriving DecidableEq, Repr

/-- The fault together with its place in the text it was found in. -/
def Fault.locate (fault : Fault) (text : List Char) : Error :=
  ⟨fault.cause, fault.position text⟩

/-- The wording of an error. -/
def Error.message (error : Error) : String :=
  error.cause.message ++ " at line " ++ toString error.position.line ++ " column " ++
    toString error.position.column

end UnitLint.Json
