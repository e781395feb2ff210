import UnitLint.Uri.Authority
import UnitLint.Uri.Scheme

/-!
# Addresses

Whether a text is an absolute address with a scheme of documentation references. Control characters
and spaces around the address, and tabs and line breaks anywhere in it, are not part of it. Only a
scheme, an authority and a port can be wrong: path, query and fragment take every character.
-/

namespace UnitLint.Uri

/-- Whether a character is a space or a control character before it. -/
def isControlOrSpace (c : Char) : Bool := c ≤ ' '

/-- Whether a character is passed over wherever it stands. -/
def isPassedOver (c : Char) : Bool := c == '\t' || c == '\n' || c == '\r'

/-- The characters of a text that belong to the address. -/
def addressChars (cs : List Char) : List Char :=
  let ends := (cs.dropWhile isControlOrSpace).reverse.dropWhile isControlOrSpace
  ends.reverse.filter (!isPassedOver ·)

/-- Whether a character is a letter of ASCII. -/
def isLetter (c : Char) : Bool := ('a' ≤ c && c ≤ 'z') || ('A' ≤ c && c ≤ 'Z')

/-- Whether a character may follow the first letter of a scheme. -/
def isSchemeChar (c : Char) : Bool :=
  isLetter c || Text.isDigit c || c == '+' || c == '-' || c == '.'

/-- Splits an address into its scheme, in lower case, and what follows the colon. -/
def splitScheme? (cs : List Char) : Option (List Char × List Char) :=
  match cs with
  | [] => none
  | c :: _ =>
    match isLetter c, cs.dropWhile isSchemeChar with
    | true, ':' :: rest => some ((cs.takeWhile isSchemeChar).map Char.toLower, rest)
    | _, _ => none

/-- Whether a character separates the parts of a path in addresses with domain names. -/
def isSlash (c : Char) : Bool := c == '/' || c == '\\'

/-- Whether a text is a drive, as in `C:`. -/
def isDrive (cs : List Char) : Bool :=
  match cs with
  | [letter, mark] => isLetter letter && (mark == ':' || mark == '|')
  | _ => false

/-- Whether the text behind `file:` is well formed. Behind two slashes stands a host, unless it is
empty or a drive. -/
def isFileRest : List Char → Bool
  | a :: b :: rest =>
    if isSlash a && isSlash b then
      let host := rest.takeWhile fun c => !isSlash c && c != '?' && c != '#'
      host = [] || isDrive host || Host.isDomainHost host
    else true
  | _ => true

/-- Whether the text behind the colon of a scheme is well formed. -/
def isRest (scheme : Scheme) (rest : List Char) : Bool :=
  match scheme with
  | .http | .https => startsWithAuthority .domain (rest.dropWhile isSlash)
  | .file => isFileRest rest
  | .info | .man =>
    match rest with
    | '/' :: '/' :: rest => startsWithAuthority .opaqueText rest
    | _ => true

/-- The scheme of a text that is a well-formed address with one of the schemes. -/
def schemeOf? (cs : List Char) : Option Scheme := do
  let (name, rest) ← splitScheme? (addressChars cs)
  let scheme ← Scheme.ofName? (String.ofList name)
  if isRest scheme rest then some scheme else none

end UnitLint.Uri
