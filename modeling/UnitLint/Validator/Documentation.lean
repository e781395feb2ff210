import UnitLint.Text.Blank
import UnitLint.Uri.Basic
import UnitLint.Validator.Rejection

/-!
# References to documentation

A list of addresses and manual pages, its entries separated by white space or commas. The empty
list is accepted: it withdraws the references given before.
-/

namespace UnitLint.Validator

/-- Whether a text is an address that refers to documentation. An `http` or `https` address has a
host; with another scheme something must stand behind the first colon of the text as given. -/
def isDocumentationUri (text : String) : Bool :=
  match Uri.schemeOf? text.toList with
  | none => false
  | some .http | some .https => true
  | some _ => (text.toList.dropWhile (· ≠ ':')).drop 1 ≠ []

/-- Whether a character can be part of the name of a manual page. -/
def isPageNameChar (c : Char) : Bool :=
  Uri.isLetter c || Text.isDigit c || "_.:@+-".toList.contains c

/-- Whether a text names a manual page with its section, as `systemd.unit(5)` does. -/
def isManPageReference (text : String) : Bool :=
  let name := text.toList.takeWhile isPageNameChar
  match text.toList.dropWhile isPageNameChar with
  | '(' :: number :: rest =>
    name ≠ [] && Text.isDigit number &&
      rest.dropWhile (fun c => Uri.isLetter c || Text.isDigit c) = [')']
  | _ => false

/-- Whether a text refers to documentation. -/
def isReference (text : String) : Bool :=
  isDocumentationUri text || isManPageReference text

/-- Whether a character separates the entries of a list. -/
def isSeparator (c : Char) : Bool :=
  Text.isBlank c || c == ','

/-- The entries of a list. -/
def listEntries (value : String) : List String :=
  ((value.toList.splitOnP isSeparator).filter (· ≠ [])).map String.ofList

/-- The entries of a list that refer to no documentation. -/
def badReferences (value : String) : List String :=
  (listEntries value).filter (!isReference ·)

/-- Why a list of references is not accepted, if it is not. -/
def rejectReferences? (value : String) : Option Rejection :=
  match badReferences value with
  | [] => none
  | entries => some (.badReferences entries)

end UnitLint.Validator
