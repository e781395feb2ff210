import Mathlib.Algebra.GroupWithZero.Nat
import UnitLint.Catalog.Basic
import UnitLint.Proofs.LastWins

/-!
# What a catalog holds

The catalog of a listing knows of each section what the listing says of it last. What stands there
of the same section before is replaced as a whole, so a key can be lost that no later section names;
inside a section the last word on a key counts in the same way.
-/

namespace UnitLint.Catalog

variable {α β : Type}

/-! ## Maps of pairs -/

theorem mapOf_append_singleton (pairs : List (String × α)) (pair : String × α) :
    mapOf (pairs ++ [pair]) = (mapOf pairs).insert pair.1 pair.2 := by
  rw [mapOf, List.foldl_append]
  rfl

/-- A map of pairs answers with the last pair of a name. -/
theorem getElem?_mapOf (pairs : List (String × α)) (name : String) :
    (mapOf pairs)[name]? = (pairs.reverse.find? (·.1 = name)).map Prod.snd := by
  induction pairs using List.reverseRecOn with
  | nil => simp [mapOf]
  | append_singleton pairs pair ih =>
    rw [mapOf_append_singleton, Std.TreeMap.getElem?_insert, ih, List.reverse_append]
    simp only [Std.LawfulEqCmp.compare_eq_iff_eq]
    by_cases h : pair.1 = name <;> simp [h]

theorem getElem?_mapOf_eq_some_iff {pairs : List (String × α)} {name : String} {value : α} :
    (mapOf pairs)[name]? = some value ↔ IsLast (·.1 = name) pairs (name, value) := by
  rw [getElem?_mapOf]
  refine IsLast.map_find?_reverse_eq_some_iff (fun _ => rfl) ?_
  rintro ⟨_, found⟩ rfl
  rfl

theorem getElem?_mapOf_map (f : α → β) (pairs : List (String × α)) (name : String) :
    (mapOf (pairs.map fun (name, value) => (name, f value)))[name]? =
      (mapOf pairs)[name]?.map f := by
  rw [getElem?_mapOf, getElem?_mapOf, ← List.map_reverse, List.find?_map]
  simp [Function.comp_def]

theorem mem_keys_mapOf {pairs : List (String × α)} {name : String} :
    name ∈ (mapOf pairs).keys ↔ ∃ value, (name, value) ∈ pairs := by
  rw [Std.TreeMap.mem_keys, Std.TreeMap.mem_iff_isSome_getElem?, getElem?_mapOf, Option.isSome_map,
    List.find?_isSome]
  constructor
  · rintro ⟨⟨_, value⟩, hmem, hname⟩
    obtain rfl : _ = name := by simpa using hname
    exact ⟨value, List.mem_reverse.1 hmem⟩
  · rintro ⟨value, hmem⟩
    exact ⟨_, List.mem_reverse.2 hmem, by simp⟩

theorem isEmpty_mapOf (pairs : List (String × α)) : (mapOf pairs).isEmpty = pairs.isEmpty := by
  induction pairs using List.reverseRecOn with
  | nil => rfl
  | append_singleton pairs pair _ =>
    rw [mapOf_append_singleton]
    simp

/-! ## Catalogs of listings -/

/-- What a listing says of a section last. -/
def LastSection (listing : Listing) (sectionName : String)
    (keys : List (String × Keyword)) : Prop :=
  IsLast (·.1 = sectionName) listing (sectionName, keys)

/-- A catalog holds what a listing says last, and nothing else. -/
structure Holds (catalog : Catalog) (listing : Listing) : Prop where
  nodup_sectionNames : catalog.sectionNames.Nodup
  mem_sectionNames : ∀ sectionName, sectionName ∈ catalog.sectionNames ↔
    ∃ keys, (sectionName, keys) ∈ listing
  nodup_keysIn : ∀ sectionName, (catalog.keysIn sectionName).Nodup
  mem_keysIn : ∀ sectionName key, key ∈ catalog.keysIn sectionName ↔
    ∃ keys, LastSection listing sectionName keys ∧ ∃ keyword, (key, keyword) ∈ keys
  keyword? : ∀ setting keyword, catalog.keyword? setting = some keyword ↔
    ∃ keys, LastSection listing setting.sectionName keys ∧
      IsLast (·.1 = setting.key) keys (setting.key, keyword)

theorem getElem?_sections_ofListing {listing : Listing} {sectionName : String} {keys : KeyMap} :
    (ofListing listing).sections[sectionName]? = some keys ↔
      ∃ pairs, LastSection listing sectionName pairs ∧ mapOf pairs = keys := by
  rw [ofListing, getElem?_mapOf_map, Option.map_eq_some_iff]
  simp only [LastSection, getElem?_mapOf_eq_some_iff]

theorem mem_keysIn_ofListing {listing : Listing} {sectionName key : String} :
    key ∈ (ofListing listing).keysIn sectionName ↔
      ∃ pairs, LastSection listing sectionName pairs ∧ ∃ keyword, (key, keyword) ∈ pairs := by
  rw [keysIn]
  split
  · next hnone =>
    refine iff_of_false List.not_mem_nil ?_
    rintro ⟨pairs, hlast, _⟩
    rw [getElem?_sections_ofListing.2 ⟨pairs, hlast, rfl⟩] at hnone
    contradiction
  · next keys hsome =>
    obtain ⟨pairs, hlast, rfl⟩ := getElem?_sections_ofListing.1 hsome
    rw [mem_keys_mapOf]
    constructor
    · intro hmem
      exact ⟨pairs, hlast, hmem⟩
    · rintro ⟨other, hother, hmem⟩
      obtain rfl : pairs = other := (Prod.mk.inj (hlast.unique hother)).2
      exact hmem

theorem keyword?_ofListing {listing : Listing} {setting : Setting} {keyword : Keyword} :
    (ofListing listing).keyword? setting = some keyword ↔
      ∃ pairs, LastSection listing setting.sectionName pairs ∧
        IsLast (·.1 = setting.key) pairs (setting.key, keyword) := by
  rw [Catalog.keyword?, Option.bind_eq_some_iff]
  constructor
  · rintro ⟨keys, hkeys, hkeyword⟩
    obtain ⟨pairs, hlast, rfl⟩ := getElem?_sections_ofListing.1 hkeys
    exact ⟨pairs, hlast, getElem?_mapOf_eq_some_iff.1 hkeyword⟩
  · rintro ⟨pairs, hlast, hkeyword⟩
    exact ⟨mapOf pairs, getElem?_sections_ofListing.2 ⟨pairs, hlast, rfl⟩,
      getElem?_mapOf_eq_some_iff.2 hkeyword⟩

/-- The catalog of a listing holds it. -/
theorem ofListing_holds (listing : Listing) : (ofListing listing).Holds listing where
  nodup_sectionNames := Std.TreeMap.nodup_keys
  mem_sectionNames sectionName := by
    rw [sectionNames, ofListing, mem_keys_mapOf]
    simp
  nodup_keysIn sectionName := by
    rw [keysIn]
    split
    · exact List.nodup_nil
    · exact Std.TreeMap.nodup_keys
  mem_keysIn _ _ := mem_keysIn_ofListing
  keyword? _ _ := keyword?_ofListing

theorem isEmpty_ofListing (listing : Listing) :
    (ofListing listing).isEmpty = listing.isEmpty := by
  rw [isEmpty, ofListing, isEmpty_mapOf, List.isEmpty_map]

/-! ## Counting -/

/-- The values of a map are those of its entries, in order. -/
theorem values_eq_map_toList {cmp : α → α → Ordering} (map : Std.TreeMap α β cmp) :
    map.values = map.toList.map Prod.snd := by
  have hfold : map.values = map.foldr (fun _ value values => value :: values) [] := rfl
  rw [hfold, Std.TreeMap.foldr_eq_foldr_toList, List.foldr_cons_eq_append, List.append_nil]

/-- The known settings are counted section by section. -/
theorem keywordCount_eq_sum (catalog : Catalog) :
    catalog.keywordCount =
      (catalog.sectionNames.map fun sectionName => (catalog.keysIn sectionName).length).sum := by
  have hkeys : ∀ entry ∈ catalog.sections.toList,
      entry.2.size = (catalog.keysIn entry.1).length := by
    rintro ⟨sectionName, keys⟩ hmem
    rw [Std.TreeMap.mem_toList_iff_getElem?_eq_some] at hmem
    rw [keysIn, hmem]
    exact Std.TreeMap.length_keys.symm
  calc catalog.keywordCount
      = (catalog.sections.toList.map fun entry => entry.2.size).sum := by
        rw [keywordCount, values_eq_map_toList, List.foldl_map, List.sum_eq_foldl, List.foldl_map]
    _ = (catalog.sections.toList.map fun entry => (catalog.keysIn entry.1).length).sum := by
        rw [List.map_congr_left hkeys]
    _ = _ := by
        rw [sectionNames, ← Std.TreeMap.map_fst_toList_eq_keys, List.map_map]
        rfl

end UnitLint.Catalog
