import Std.Data.TreeMap
import UnitLint.Catalog.Listing
import UnitLint.Setting
import UnitLint.Text.ByteOrder

/-!
# Catalogs

The sections and keys that are known. Names come in the order of their bytes. Where a listing names
a section twice, all that it said of the section before is forgotten, and likewise for a key.
-/

namespace UnitLint

/-- The keys of a section. -/
abbrev KeyMap := Std.TreeMap String Keyword Text.compareBytes

/-- Known sections and keys. -/
structure Catalog where
  sections : Std.TreeMap String KeyMap Text.compareBytes

namespace Catalog

/-- The map of some pairs, in which a later pair takes the place of an earlier one. -/
def mapOf {α : Type} (pairs : List (String × α)) : Std.TreeMap String α Text.compareBytes :=
  pairs.foldl (fun map (name, value) => map.insert name value) ∅

/-- The catalog of a listing. -/
def ofListing (listing : Listing) : Catalog :=
  ⟨mapOf (listing.map fun (name, keys) => (name, mapOf keys))⟩

/-- Reads a catalog. -/
def ofText (text : String) : Except Json.Error Catalog :=
  (Listing.ofText text).map ofListing

/-- Whether nothing is known. -/
def isEmpty (catalog : Catalog) : Bool :=
  catalog.sections.isEmpty

/-- The names of the sections, in order. -/
def sectionNames (catalog : Catalog) : List String :=
  catalog.sections.keys

/-- Whether a section is known. -/
def hasSection (catalog : Catalog) (sectionName : String) : Bool :=
  catalog.sections.contains sectionName

/-- The keys of a section, in order. A section that is not known has none. -/
def keysIn (catalog : Catalog) (sectionName : String) : List String :=
  match catalog.sections[sectionName]? with
  | none => []
  | some keys => keys.keys

/-- What is known about a setting. -/
def keyword? (catalog : Catalog) (setting : Setting) : Option Keyword :=
  catalog.sections[setting.sectionName]?.bind fun keys => keys[setting.key]?

/-- Whether a setting is known. -/
def hasKeyword (catalog : Catalog) (setting : Setting) : Bool :=
  (catalog.keyword? setting).isSome

/-- The key with whose description a setting is described. -/
def anchor? (catalog : Catalog) (setting : Setting) : Option String :=
  (catalog.keyword? setting).bind Keyword.anchor?

/-- The manual page that describes a setting. -/
def manual? (catalog : Catalog) (setting : Setting) : Option String :=
  (catalog.keyword? setting).bind Keyword.manual?

/-- The number of known settings. -/
def keywordCount (catalog : Catalog) : Nat :=
  catalog.sections.values.foldl (fun count keys => count + keys.size) 0

end Catalog

end UnitLint
