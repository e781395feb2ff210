import UnitLint.Proofs.Catalog.Writing
import UnitLint.Proofs.Registry.Loading
import UnitLint.Proofs.Registry.Spelling

/-!
# Queries

All that a registry says of sections and keys agrees with itself: names are listed exactly if they
are known, in the order of their bytes and so without repetitions, and the facts about a key are
those of its keyword. What is not known has neither keys nor facts.
-/

namespace UnitLint

/-! ## Order by bytes -/

namespace Text

theorem compare_eq_lt_iff {xs ys : List UInt8} : compare xs ys = .lt ↔ xs < ys := by
  induction xs generalizing ys with
  | nil => cases ys <;> simp
  | cons x xs ih =>
    cases ys with
    | nil => simp
    | cons y ys =>
      rw [List.compare_cons_cons, Ordering.then_eq_lt, ih, List.cons_lt_cons_iff,
        Std.compare_eq_lt, Std.LawfulEqOrd.compare_eq_iff_eq]

/-- Whether texts are listed in the order of their bytes, each of them once. -/
def IsAscending (texts : List String) : Prop :=
  texts.Pairwise fun a b => bytes a < bytes b

/-- The keys of a map come in order. -/
theorem isAscending_keys {α : Type} (map : Std.TreeMap String α compareBytes) :
    IsAscending map.keys := by
  refine Std.TreeMap.ordered_keys.imp fun {a b} hlt => ?_
  exact compare_eq_lt_iff.1 hlt

end Text

/-! ## Catalogs -/

namespace Catalog

variable {catalog : Catalog}

/-- What is said of sections and keys in different ways agrees. -/
structure IsCoherent (catalog : Catalog) : Prop where
  ascending_sectionNames : Text.IsAscending catalog.sectionNames
  mem_sectionNames : ∀ sectionName,
    sectionName ∈ catalog.sectionNames ↔ catalog.hasSection sectionName
  ascending_keysIn : ∀ sectionName, Text.IsAscending (catalog.keysIn sectionName)
  keysIn_unknown : ∀ sectionName, catalog.hasSection sectionName = false →
    catalog.keysIn sectionName = []
  mem_keysIn : ∀ sectionName key,
    key ∈ catalog.keysIn sectionName ↔ catalog.hasKeyword ⟨sectionName, key⟩
  hasKeyword_iff : ∀ setting,
    catalog.hasKeyword setting ↔ ∃ keyword, catalog.keyword? setting = some keyword
  facts_known : ∀ setting keyword, catalog.keyword? setting = some keyword →
    catalog.anchor? setting = keyword.anchor? ∧ catalog.manual? setting = keyword.manual?
  facts_unknown : ∀ setting, catalog.hasKeyword setting = false →
    catalog.anchor? setting = none ∧ catalog.manual? setting = none

theorem ascending_keysIn (catalog : Catalog) (sectionName : String) :
    Text.IsAscending (catalog.keysIn sectionName) := by
  rw [keysIn]
  split
  · exact List.Pairwise.nil
  · exact Text.isAscending_keys _

theorem keysIn_eq_nil {sectionName : String} (h : catalog.hasSection sectionName = false) :
    catalog.keysIn sectionName = [] := by
  have hnone : catalog.sections[sectionName]? = none :=
    Std.TreeMap.getElem?_eq_none_of_contains_eq_false h
  rw [keysIn, hnone]

theorem mem_keysIn_iff {sectionName key : String} :
    key ∈ catalog.keysIn sectionName ↔ catalog.hasKeyword ⟨sectionName, key⟩ := by
  rw [keysIn, hasKeyword, keyword?]
  cases catalog.sections[sectionName]? with
  | none => simp
  | some keys => rw [Option.bind_some, Std.TreeMap.mem_keys, Std.TreeMap.mem_iff_isSome_getElem?]

theorem isCoherent (catalog : Catalog) : catalog.IsCoherent where
  ascending_sectionNames := Text.isAscending_keys catalog.sections
  mem_sectionNames _ := Std.TreeMap.mem_keys.trans Std.TreeMap.mem_iff_contains
  ascending_keysIn := catalog.ascending_keysIn
  keysIn_unknown _ := keysIn_eq_nil
  mem_keysIn _ _ := mem_keysIn_iff
  hasKeyword_iff _ := Option.isSome_iff_exists
  facts_known setting keyword h := by
    rw [anchor?, manual?, h]
    exact ⟨rfl, rfl⟩
  facts_unknown setting h := by
    have hnone : catalog.keyword? setting = none :=
      Option.isNone_iff_eq_none.1 (Option.isSome_eq_false_iff.1 h)
    rw [anchor?, manual?, hnone]
    exact ⟨rfl, rfl⟩

end Catalog

/-! ## Registries -/

namespace Registry

/-- All queries of a registry agree, and it knows some section. -/
theorem ofSource_coherent {source : Source} {registry : Registry}
    (h : (ofSource source).value = .ok registry) :
    registry.catalog.sectionNames ≠ [] ∧ registry.catalog.IsCoherent := by
  obtain ⟨catalog, -, hempty, rfl⟩ := ofSource_eq_ok_iff.1 h
  refine ⟨?_, catalog.isCoherent⟩
  rw [Catalog.isEmpty, ← Std.TreeMap.isEmpty_keys] at hempty
  exact List.isEmpty_eq_false_iff.1 hempty

/-- The text that is written for a listing makes a registry. -/
theorem value_ofSource_toText {listing : Listing} (hne : listing ≠ []) (recordText : String) :
    (ofSource (.ofTexts listing.toText recordText)).value =
      .ok ⟨.ofListing listing, RecordTable.ofText recordText, .empty⟩ :=
  value_ofSource_spelled (.ofTexts _ recordText) hne listing.toText_spells

/-- Names out of order and beyond ASCII, the empty name, and a section that is named twice. -/
theorem ofSource_coherent_unordered :
    ∃ registry, (ofSource (.ofTexts (Listing.toText [("é", [("k", ⟨none, none⟩)]), ("Z", []),
          ("", [("b", ⟨none, none⟩), ("B", ⟨none, some "m"⟩)]), ("é", [])]) "")).value =
        .ok registry ∧
      registry.catalog.sectionNames = ["", "Z", "é"] ∧ registry.catalog.keysIn "" = ["B", "b"] ∧
      registry.catalog.IsCoherent := by
  exact ⟨_, value_ofSource_toText (List.cons_ne_nil _ _) "", by decide +kernel, by decide +kernel,
    (ofSource_coherent (value_ofSource_toText (List.cons_ne_nil _ _) "")).2⟩

end Registry

end UnitLint
