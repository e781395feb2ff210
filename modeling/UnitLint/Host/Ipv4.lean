import UnitLint.Text.Digit

/-!
# Addresses of version 4

A host name whose last label is a number is meant as an address: up to four numbers, each decimal,
octal after a leading zero or hexadecimal after `0x`. The last number fills all the bytes that the
others leave; each of the others is one byte. A dot at the very end is ignored.
-/

namespace UnitLint.Host.Ipv4

/-- The number that a part of an address stands for. The digits of a base may be missing after
their mark, which then stands for zero. -/
def number? : List Char → Option Nat
  | [] => none
  | '0' :: x :: digits =>
    if x = 'x' ∨ x = 'X' then Text.numeral? 16 digits else Text.numeral? 8 (x :: digits)
  | digits => Text.numeral? 10 digits

/-- Labels without one empty label at their end. -/
def dropEmptyEnd (labels : List (List Char)) : List (List Char) :=
  if labels.getLast? = some [] then labels.dropLast else labels

/-- Whether the last label of a host name makes it an address. -/
def endsInNumber (labels : List (List Char)) : Bool :=
  match (dropEmptyEnd labels).getLast? with
  | none => false
  | some last => (last ≠ [] && last.all Text.isDigit) || (number? last).isSome

/-- The address that the labels of a host name give. -/
def address? (labels : List (List Char)) : Option Nat := do
  let numbers ← (dropEmptyEnd labels).mapM number?
  let last ← numbers.getLast?
  let bytes := numbers.dropLast
  let rest := Nat.pow 256 (4 - bytes.length)
  if numbers.length ≤ 4 ∧ bytes.all (· < 256) ∧ last < rest then
    some (bytes.foldl (fun value byte => value * 256 + byte) 0 * rest + last)
  else
    none

end UnitLint.Host.Ipv4
