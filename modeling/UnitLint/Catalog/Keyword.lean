import UnitLint.Json.Item
import UnitLint.Json.Member
import UnitLint.Json.Skip

/-!
# What is known about a key

Where a key is documented. Both facts may be missing. In the text of a catalog they are the fields
of an object, next to which any other fields may stand, or the items of a list in a fixed order,
from whose end items may be missing.
-/

namespace UnitLint

/-- Where a key is documented. -/
structure Keyword where
  /-- The key with whose description this one is described. -/
  anchor? : Option String
  /-- The manual page that describes the key. -/
  manual? : Option String
  deriving DecidableEq, Repr

namespace Keyword

/-- A fact about a key. -/
inductive Field where
  | anchor
  | manual
  deriving DecidableEq, Repr

namespace Field

/-- The fields, in the order in which a list gives them. -/
def all : List Field := [anchor, manual]

/-- The key of a field in an object. -/
def name : Field → String
  | anchor => "declaredUnderKeyword"
  | manual => "declaredInFile"

/-- The field with the given key. -/
def ofName? (name : String) : Option Field :=
  all.find? (·.name = name)

end Field

/-- The facts that have been read. -/
abbrev Facts := List (Field × Option String)

/-- What is known when some facts have been read. -/
def ofFacts (facts : Facts) : Keyword where
  anchor? := (facts.lookup .anchor).join
  manual? := (facts.lookup .manual).join

/-- Where a field that stands twice is reported: behind the blanks after its key, and behind the end
of the object if that comes next. -/
def behindRepeated (cs : List Char) : List Char :=
  match Json.skipSpace cs with
  | [] => []
  | c :: rest => if c = '\x7d' then rest else c :: rest

/-- Takes up a field. -/
def readField (before : Facts) (key : String) (cs : List Char) :
    Except Json.Fault (Facts × List Char) :=
  match Field.ofName? key with
  | none =>
    match Json.skipColon cs with
    | .error fault => .error fault
    | .ok rest => (Json.skipValue rest).map (before, ·)
  | some field =>
    if (before.lookup field).isSome then
      .error (.here (.duplicateField field.name) (behindRepeated cs))
    else
      (Json.nullableString.readBehindColon cs).map fun (value?, rest) =>
        ((field, value?) :: before, rest)

theorem readField_length_le {before after : Facts} {key : String} {cs rest : List Char}
    (h : readField before key cs = .ok (after, rest)) : rest.length ≤ cs.length := by
  rw [readField] at h
  split at h
  · split at h
    · contradiction
    · next hcolon =>
      obtain ⟨_, hvalue, heq⟩ := Json.exists_of_map_eq_ok h
      cases heq
      exact Nat.le_of_lt (Nat.lt_trans (Json.skipValue_length_lt hvalue)
        (Json.skipColon_length_lt hcolon))
  · split at h
    · contradiction
    · obtain ⟨⟨_, _⟩, hvalue, heq⟩ := Json.exists_of_map_eq_ok h
      cases heq
      exact Nat.le_of_lt (Json.nullableString.readBehindColon_length_lt hvalue)

/-- The reader of fields. -/
def fieldReader : Json.MemberReader Facts := ⟨readField, readField_length_le⟩

/-- Reads an object of facts behind its opening. -/
def readObject (cs : List Char) : Except Json.Fault (Keyword × List Char) :=
  (Json.readMembers fieldReader true [] cs).map fun (facts, rest) => (ofFacts facts, rest)

theorem readObject_length_lt {cs rest : List Char} {keyword : Keyword}
    (h : readObject cs = .ok (keyword, rest)) : rest.length < cs.length := by
  obtain ⟨⟨_, _⟩, hmembers, heq⟩ := Json.exists_of_map_eq_ok h
  cases heq
  exact Json.readMembers_length_lt hmembers

/-- Reads the facts that are items of a list, where those of `fields` may still come. -/
def readFacts (before : Facts) (cs : List Char) :
    List Field → Except Json.Fault (Facts × List Char)
  | [] => .ok (before, cs)
  | field :: fields =>
    match Json.nullableString.readItem before.isEmpty cs with
    | .error fault => .error fault
    | .ok (none, rest) => .ok (before, rest)
    | .ok (some value?, rest) => readFacts ((field, value?) :: before) rest fields

theorem readFacts_length_le {before after : Facts} {cs rest : List Char} {fields : List Field}
    (h : readFacts before cs fields = .ok (after, rest)) : rest.length ≤ cs.length := by
  induction fields generalizing before cs with
  | nil => cases h; exact Nat.le_refl _
  | cons field fields ih =>
    rw [readFacts] at h
    split at h
    · contradiction
    · next hitem =>
      cases h
      exact Json.nullableString.readItem_length_le hitem
    · next hitem =>
      exact Nat.le_trans (ih h) (Json.nullableString.readItem_length_le hitem)

/-- Reads a list of facts behind its opening. -/
def readList (cs : List Char) : Except Json.Fault (Keyword × List Char) :=
  match readFacts [] cs Field.all with
  | .error fault => .error fault
  | .ok (facts, rest) => (Json.closeList rest).map (ofFacts facts, ·)

theorem readList_length_lt {cs rest : List Char} {keyword : Keyword}
    (h : readList cs = .ok (keyword, rest)) : rest.length < cs.length := by
  rw [readList] at h
  split at h
  · contradiction
  · next hfacts =>
    obtain ⟨_, hclose, heq⟩ := Json.exists_of_map_eq_ok h
    cases heq
    exact Nat.lt_of_lt_of_le (Json.closeList_length_lt hclose) (readFacts_length_le hfacts)

/-- Reads what is known about a key. -/
def read (cs : List Char) : Except Json.Fault (Keyword × List Char) :=
  match Json.skipSpace cs with
  | [] => .error (.here .eofInValue [])
  | c :: rest =>
    if c = '\x7b' then readObject rest
    else if c = '[' then readList rest
    else .error (Json.mismatch "struct KeywordData" (c :: rest))

theorem read_length_lt {cs rest : List Char} {keyword : Keyword}
    (h : read cs = .ok (keyword, rest)) : rest.length < cs.length := by
  have hle := Json.skipSpace_length_le cs
  rw [read] at h
  split at h
  · contradiction
  · next heq =>
    rw [heq, List.length_cons] at hle
    split at h
    · exact Nat.lt_trans (readObject_length_lt h) hle
    · split at h
      · exact Nat.lt_trans (readList_length_lt h) hle
      · contradiction

/-- The reader of what is known about a key. -/
def reader : Json.Reader Keyword := ⟨read, read_length_lt⟩

end Keyword

end UnitLint
