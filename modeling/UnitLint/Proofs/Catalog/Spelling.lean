import Mathlib.Data.List.Nodup
import UnitLint.Catalog.Listing
import UnitLint.Proofs.Json.Objects

/-!
# Spellings of listings

The texts that stand for a listing: an object of sections, each an object of keys, each an object of
facts. The facts about a key come in either order, and one that is missing is spelled as null or not
at all. Reading any of these texts gives the listing back, with all its repetitions.
-/

namespace UnitLint

namespace Keyword

/-- What is known about a key under a field. -/
def fact? (keyword : Keyword) : Field → Option String
  | .anchor => keyword.anchor?
  | .manual => keyword.manual?

/-- The members that give the facts of some fields. -/
def members (keyword : Keyword) (fields : List Field) : List (String × Option String) :=
  fields.map fun field => (field.name, keyword.fact? field)

/-- The spellings of what is known about a key: every field stands at most once, and only a missing
fact may be left out. -/
inductive Spells (keyword : Keyword) : List Char → Prop where
  | object (fields : List Field) {form : List Char} (hnodup : fields.Nodup)
      (hmissing : ∀ field, field ∉ fields → keyword.fact? field = none)
      (hform : Json.SpellsObject Json.SpellsNullable (keyword.members fields) form) :
      Spells keyword form

/-! ## Reading the facts about a key -/

theorem Field.ofName?_name (field : Field) : Field.ofName? field.name = some field := by
  cases field <;> decide

/-- The facts of some fields, as they are kept while an object is read. -/
def facts (keyword : Keyword) (fields : List Field) : Facts :=
  fields.map fun field => (field, keyword.fact? field)

theorem lookup_facts_join (keyword : Keyword) {fields : List Field} {field : Field}
    (hmissing : field ∉ fields → keyword.fact? field = none) :
    ((keyword.facts fields).lookup field).join = keyword.fact? field := by
  induction fields with
  | nil => exact (hmissing List.not_mem_nil).symm
  | cons first fields ih =>
    rw [facts, List.map_cons, List.lookup_cons]
    by_cases heq : field = first
    · simp [heq]
    · rw [beq_false_of_ne heq]
      refine ih fun hnot => hmissing ?_
      simp [heq, hnot]

theorem lookup_facts_eq_none (keyword : Keyword) {fields : List Field} {field : Field}
    (hnot : field ∉ fields) : (keyword.facts fields).lookup field = none := by
  rw [List.lookup_eq_none_iff]
  intro fact hfact
  obtain ⟨other, hother, rfl⟩ := List.mem_map.1 hfact
  have hne : field ≠ other := by
    rintro rfl
    exact hnot hother
  exact bne_iff_ne.2 hne

theorem ofFacts_facts (keyword : Keyword) {fields : List Field}
    (hmissing : ∀ field, field ∉ fields → keyword.fact? field = none) :
    ofFacts (keyword.facts fields) = keyword := by
  rw [ofFacts, keyword.lookup_facts_join (hmissing .anchor),
    keyword.lookup_facts_join (hmissing .manual)]
  rfl

theorem readField_name {before : Facts} {field : Field} (hnew : before.lookup field = none)
    {value? : Option String} {tail : List Char}
    (htail : Json.SpellsBehindKey Json.SpellsNullable value? tail) (rest : List Char) :
    readField before field.name (tail ++ rest) = .ok ((field, value?) :: before, rest) := by
  rw [readField, Field.ofName?_name]
  simp [hnew, Json.nullableString_reads.readBehindColon htail, Except.map]

/-- Fields that stand once are all taken up, the latest first. -/
theorem fieldReader_takesUp (keyword : Keyword) (read todo : List Field)
    (hnodup : (todo.reverse ++ read).Nodup) :
    fieldReader.TakesUp Json.SpellsNullable (keyword.facts read) (keyword.members todo)
      (keyword.facts (todo.reverse ++ read)) := by
  induction todo generalizing read with
  | nil => exact .nil
  | cons field todo ih =>
    rw [List.reverse_cons, List.append_assoc, List.singleton_append] at hnodup ⊢
    have hnew : field ∉ read := (List.nodup_cons.1 (List.nodup_append.1 hnodup).2.1).1
    refine .cons (fun tail htail rest => readField_name ?_ htail rest) (ih _ hnodup)
    exact keyword.lookup_facts_eq_none hnew

theorem reader_reads : reader.Reads Spells := by
  intro keyword form hform spacing hspacing rest
  obtain ⟨fields, hnodup, hmissing, hobject⟩ := hform
  have htakes := keyword.fieldReader_takesUp [] fields
    (by simpa [List.nodup_reverse] using hnodup)
  obtain ⟨inner, rfl, hread⟩ := Json.readMembers_object hobject htakes
  change read (spacing ++ '\x7b' :: inner ++ rest) = .ok (keyword, rest)
  rw [read, List.append_assoc, List.cons_append,
    Json.skipSpace_spacing_cons hspacing (by decide)]
  have hfacts : ofFacts (keyword.facts (fields.reverse ++ [])) = keyword :=
    keyword.ofFacts_facts fun field hnot => hmissing field (by simpa using hnot)
  change readObject (inner ++ rest) = _
  rw [readObject, show ([] : Facts) = keyword.facts [] from rfl, hread]
  exact congrArg (fun found => Except.ok (found, rest)) hfacts

end Keyword

namespace Listing

/-- The texts that stand for a listing. -/
inductive Spells (listing : Listing) (text : String) : Prop where
  | object {before form behind : List Char} (hbefore : Json.IsSpacing before)
      (hform : Json.SpellsObject (Json.SpellsObject Keyword.Spells) listing form)
      (hbehind : Json.IsSpacing behind) (htext : text.toList = before ++ form ++ behind) :
      Spells listing text

/-- Every text that stands for a listing is read as that listing. -/
theorem ofText_eq_ok {listing : Listing} {text : String} (h : Spells listing text) :
    ofText text = .ok listing := by
  obtain ⟨hbefore, hform, hbehind, htext⟩ := h
  exact Keyword.reader_reads.pairs.pairs.readText hbefore hform hbehind htext

end Listing

end UnitLint
