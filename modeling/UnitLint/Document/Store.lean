import UnitLint.Asset.Basic
import UnitLint.Document.Path

/-!
# Stores of documents

A store is asked for the document at a path. That there is none is an answer; a fault means that
something is there which cannot be read.
-/

namespace UnitLint.Document

/-- Why something could not be read. -/
inductive ReadFault where
  | notFound
  | notADirectory
  | isADirectory
  | nameTooLong
  | nulInPath
  /-- The bytes are no text. -/
  | notUtf8
  /-- A fault of a store's own. -/
  | other (text : String)
  deriving DecidableEq, Repr

/-- The wording of a fault. -/
def ReadFault.message : ReadFault → String
  | notFound => "No such file or directory (os error 2)"
  | notADirectory => "Not a directory (os error 20)"
  | isADirectory => "Is a directory (os error 21)"
  | nameTooLong => "File name too long (os error 36)"
  | nulInPath => "file name contained an unexpected NUL byte"
  | notUtf8 => "stream did not contain valid UTF-8"
  | other text => text

/-- The answers of a store, by path. -/
abbrev Store := String → Except ReadFault (Option ByteArray)

namespace Store

/-- The store without documents. -/
def empty : Store := fun _ => .ok none

/-- The store of the built-in files. -/
def builtIn : Store := fun path => .ok ((Asset.file? path).map String.toUTF8)

/-- The store that holds the given documents or, in place of one, the fault of reading it. -/
def ofList (documents : List (String × Except ReadFault ByteArray)) : Store := fun path =>
  match documents.lookup path with
  | none => .ok none
  | some answer => answer.map some

end Store

end UnitLint.Document
