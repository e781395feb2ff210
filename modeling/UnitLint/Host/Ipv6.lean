import UnitLint.Text.Digit

/-!
# Addresses of version 6

Eight groups of up to four hexadecimal digits with colons between them. Two colons in a row, at
most once, stand for one or more groups that are missing, and four decimal bytes with dots between
them may take the place of the last two groups.
-/

namespace UnitLint.Host.Ipv6

/-- The number of groups in an address. -/
def groupCount : Nat := 8

/-- Whether a text is one group. -/
def isGroup (digits : List Char) : Bool :=
  digits ≠ [] && digits.length ≤ 4 && digits.all fun d => (Text.digit? 16 d).isSome

/-- Whether a text is a decimal byte, which has no leading zero. -/
def isByte (digits : List Char) : Bool :=
  digits ≠ [] && (digits.length == 1 || digits.head? ≠ some '0') && digits.length ≤ 3 &&
    digits.all Text.isDigit && (Text.numeral? 10 digits).any (· < 256)

/-- Whether a text is four decimal bytes with dots between them. -/
def isDotted (cs : List Char) : Bool :=
  let bytes := cs.splitOn '.'
  bytes.length == 4 && bytes.all isByte

/-- How many groups the pieces between colons make up, where only the last piece of an address may
be bytes with dots. -/
def width? (endsAddress : Bool) : List (List Char) → Option Nat
  | [] => some 0
  | [piece] =>
    if isGroup piece then some 1
    else if endsAddress && isDotted piece then some 2
    else none
  | piece :: pieces => if isGroup piece then (width? endsAddress pieces).map (· + 1) else none

/-- The pieces of a text between its colons. The empty text has none. -/
def pieces (cs : List Char) : List (List Char) :=
  if cs = [] then [] else cs.splitOn ':'

/-- Splits a text at the first two colons in a row. -/
def splitGap : List Char → List Char × Option (List Char)
  | ':' :: ':' :: rest => ([], some rest)
  | [] => ([], none)
  | c :: cs =>
    let (before, after) := splitGap cs
    (c :: before, after)

/-- Whether a text is an address. -/
def isAddress (cs : List Char) : Bool :=
  match splitGap cs with
  | (before, none) => width? true (pieces before) == some groupCount
  | (before, some after) =>
    match width? false (pieces before), width? true (pieces after) with
    | some front, some back => front + back < groupCount
    | _, _ => false

end UnitLint.Host.Ipv6
