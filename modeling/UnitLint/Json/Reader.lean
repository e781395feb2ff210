import UnitLint.Json.Number

/-!
# Readers

A reader takes one value off the front of a text. It uses up at least one character, so that reading
item after item comes to an end. A value of another kind than the one asked for is described by its
kind and, if it is short, by what it is.
-/

namespace UnitLint.Json

/-- A way to read values. -/
structure Reader (α : Type) where
  read : List Char → Except Fault (α × List Char)
  length_lt : ∀ {cs rest : List Char} {value : α},
    read cs = .ok (value, rest) → rest.length < cs.length

/-- Reads a value behind which nothing follows. -/
def Reader.readWhole {α : Type} (reader : Reader α) (cs : List Char) : Except Fault α :=
  match reader.read cs with
  | .error fault => .error fault
  | .ok (value, rest) =>
    match skipSpace rest with
    | [] => .ok value
    | c :: rest => .error (.next .trailingCharacters (c :: rest))

/-- Reads a text that holds one value and nothing else. -/
def Reader.readText {α : Type} (reader : Reader α) (text : String) : Except Error α :=
  (reader.readWhole text.toList).mapError (·.locate text.toList)

/-- What a text begins with, and the text behind what is looked at to find that out. -/
def meet (cs : List Char) : Except Fault (Found × List Char) :=
  match cs with
  | [] => .error (.here .eofInValue [])
  | 'n' :: rest => (skipWord ['u', 'l', 'l'] rest).map (.null, ·)
  | 't' :: rest => (skipWord ['r', 'u', 'e'] rest).map (.boolean true, ·)
  | 'f' :: rest => (skipWord ['a', 'l', 's', 'e'] rest).map (.boolean false, ·)
  | '"' :: rest => (readString rest).map fun (text, rest) => (.string text, rest)
  | '[' :: _ => .ok (.sequence, cs)
  | '\x7b' :: _ => .ok (.map, cs)
  | '-' :: rest => number true rest
  | c :: _ => if Text.isDigit c then number false cs else .error (.next .expectedValue cs)
where
  number (isNegative : Bool) (cs : List Char) : Except Fault (Found × List Char) :=
    match readNumeral .eofInValue isNegative cs with
    | .error fault => .error fault
    | .ok (numeral, rest) => (numeral.found rest).map (·, rest)

/-- The fault of a value of another kind than the one expected. -/
def mismatch (expected : String) (cs : List Char) : Fault :=
  match meet cs with
  | .error fault => fault
  | .ok (found, rest) => .here (.invalidType found expected) rest

/-- Reads a string or the word for its absence. -/
def readNullableString (cs : List Char) : Except Fault (Option String × List Char) :=
  match skipSpace cs with
  | [] => .error (.here .eofInValue [])
  | c :: rest =>
    if c = 'n' then (skipWord ['u', 'l', 'l'] rest).map (none, ·)
    else if c = '"' then (readString rest).map fun (text, rest) => (some text, rest)
    else .error (mismatch "a string" (c :: rest))

theorem readNullableString_length_lt {cs rest : List Char} {text? : Option String}
    (h : readNullableString cs = .ok (text?, rest)) : rest.length < cs.length := by
  have hle := skipSpace_length_le cs
  rw [readNullableString] at h
  split at h
  · contradiction
  · next heq =>
    rw [heq, List.length_cons] at hle
    split at h
    · obtain ⟨after, hword, heq⟩ := exists_of_map_eq_ok h
      cases heq
      have := skipWord_length_le hword
      omega
    · split at h
      · obtain ⟨⟨text, after⟩, hstring, heq⟩ := exists_of_map_eq_ok h
        cases heq
        have := readString_length_lt hstring
        omega
      · contradiction

/-- The reader of strings that may be absent. -/
def nullableString : Reader (Option String) :=
  ⟨readNullableString, readNullableString_length_lt⟩

end UnitLint.Json
