import UnitLint.Proofs.Catalog.Basic
import UnitLint.Proofs.Catalog.Spelling
import UnitLint.Proofs.Registry.Loading

/-!
# Registries of spelled listings

Whatever text stands for a listing, the registry that is built from it holds what the listing says
last. How the text is laid out, which escapes it uses and in which order it gives the facts makes no
difference.
-/

namespace UnitLint.Registry

open Json

theorem value_ofSource_spelled (source : Source) {listing : Listing} (hne : listing ≠ [])
    (hspells : listing.Spells source.catalogText) :
    (ofSource source).value =
      .ok ⟨.ofListing listing, RecordTable.ofText source.recordText, source.library⟩ := by
  have hcatalog : Catalog.ofText source.catalogText = .ok (.ofListing listing) := by
    rw [Catalog.ofText, Listing.ofText_eq_ok hspells]
    rfl
  have hsections : (Catalog.ofListing listing).isEmpty = false := by
    rw [Catalog.isEmpty_ofListing]
    simpa using hne
  exact ofSource_eq_ok_iff.2 ⟨_, hcatalog, hsections, rfl⟩

/-- Every text that stands for a listing with a section makes a registry, and the catalog of that
registry holds the listing: a section has the keys of its last occurrence alone, and a key is known
for what its last occurrence there says. -/
theorem ofSource_spelled {listing : Listing} (hne : listing ≠ []) {source : Source}
    (hspells : listing.Spells source.catalogText) :
    ∃ registry, (ofSource source).value = .ok registry ∧ registry.catalog.Holds listing := by
  exact ⟨_, value_ofSource_spelled source hne hspells, Catalog.ofListing_holds listing⟩

/-- A section is named twice, once with an escape. Its keys are not merged, and the facts about them
are in another order, null or left out. -/
theorem ofSource_spelled_twice :
    ∃ registry, (ofSource (.ofTexts ("\x7b\"Unit\":\x7b\"A\":\x7b\"declaredInFile\":\"m\"," ++
          "\"declaredUnderKeyword\":null\x7d\x7d,\"\\u0055nit\":\x7b\"\\uD83D\\ude00\":\x7b \x7d" ++
          "\x7d\x7d\n") "")).value = .ok registry ∧
      registry.catalog.Holds
        [("Unit", [("A", ⟨none, some "m"⟩)]), ("Unit", [("😀", ⟨none, none⟩)])] := by
  have hmanual : SpellsMember SpellsNullable ("declaredInFile", some "m")
      "\"declaredInFile\":\"m\"".toList :=
    .tight (.quoted (.of_plain rfl)) (.string (.quoted (.of_plain rfl)))
  have hanchor : SpellsMember SpellsNullable ("declaredUnderKeyword", none)
      "\"declaredUnderKeyword\":null".toList :=
    .tight (.quoted (.of_plain rfl)) .null
  have hescaped : SpellsChars "Unit".toList "\\u0055nit".toList :=
    .cons (.unit (.digits (.inl rfl) (.inl rfl) (.inl rfl) (.inl rfl))) (.of_plain rfl)
  have hlead : SpellsUnit (leadUnit '😀') ['D', '8', '3', 'D'] :=
    .digits (.inr rfl) (.inl rfl) (.inl rfl) (.inr rfl)
  have htrail : SpellsUnit (trailUnit '😀') ['d', 'e', '0', '0'] :=
    .digits (.inl rfl) (.inl rfl) (.inl rfl) (.inl rfl)
  have hpair : SpellsChars "😀".toList "\\uD83D\\ude00".toList :=
    .cons (.surrogates (by decide) hlead htrail) .nil
  have hswapped : Keyword.Spells ⟨none, some "m"⟩
      "\x7b\"declaredInFile\":\"m\",\"declaredUnderKeyword\":null\x7d".toList :=
    .object [.manual, .anchor] (by decide) (by rintro (_ | _) h <;> simp at h)
      (.members (.cons hmanual (.last hanchor)))
  have hmissing : Keyword.Spells ⟨none, none⟩ "\x7b \x7d".toList :=
    .object [] (by decide) (by rintro (_ | _) _ <;> rfl)
      (.empty (.cons (c := ' ') (by decide) .nil))
  have hbefore : SpellsMember (SpellsObject Keyword.Spells) ("Unit", [("A", ⟨none, some "m"⟩)]) _ :=
    .tight (.quoted (.of_plain rfl))
      (.members (.last (.tight (.quoted (.of_plain rfl)) hswapped)))
  have hlater : SpellsMember (SpellsObject Keyword.Spells) ("Unit", [("😀", ⟨none, none⟩)]) _ :=
    .tight (.quoted hescaped) (.members (.last (.tight (.quoted hpair) hmissing)))
  exact ofSource_spelled (by decide) (.object .nil (.members (.cons hbefore (.last hlater)))
    (.cons (c := '\n') (by decide) .nil) (by decide +kernel))

/-- A catalog that names a section without keys. -/
theorem value_ofSource_bare (recordText : String) :
    (ofSource (.ofTexts "\x7b\"Unit\":\x7b\x7d\x7d" recordText)).value =
      .ok ⟨.ofListing [("Unit", [])], RecordTable.ofText recordText, .empty⟩ := by
  have hsection : SpellsMember (SpellsObject Keyword.Spells) ("Unit", []) _ :=
    .tight (.quoted (.of_plain rfl)) (.empty .nil)
  have hspells : Listing.Spells [("Unit", [])] "\x7b\"Unit\":\x7b\x7d\x7d" :=
    .object .nil (.members (.last hsection)) .nil (by decide)
  exact value_ofSource_spelled (.ofTexts _ recordText) (by decide) hspells

end UnitLint.Registry
