import UnitLint.Proofs.Catalog.Meaning
import UnitLint.Proofs.Registry.Spelling

/-!
# Malformed catalogs

One entry that says nothing about its key makes the whole catalog malformed. It does not matter how
many good entries stand around it, nor that a later one would have taken its place: what is read of
an object is read of all its members.
-/

namespace UnitLint

open Json

namespace Keyword

/-- The values that say nothing about a key. -/
inductive IsMalformed : List Char → Prop where
  /-- A value that is neither an object nor a list. -/
  | kind {form : List Char} (hobject : ¬IsObject form) (hlist : ¬IsList form) : IsMalformed form
  /-- An object with a fact that is neither null nor a text. -/
  | fact {spacing : List Char} {members : List Member} {member : Member} {field : Field}
      (hspacing : IsSpacing spacing) (hmembers : ∀ member ∈ members, member.IsWritten)
      (hmem : member ∈ members) (hname : SpellsString field.name member.name.form)
      (hvalue : ∀ value?, ¬SpellsNullable value? member.value.form) :
      IsMalformed (objectText spacing members)
  /-- An object that gives a fact twice, however the name is spelled. -/
  | repeated {spacing : List Char} {before between behind : List Member} {first second : Member}
      {field : Field} (hspacing : IsSpacing spacing)
      (hmembers : ∀ member ∈ before ++ first :: (between ++ second :: behind), member.IsWritten)
      (hfirst : SpellsString field.name first.name.form)
      (hsecond : SpellsString field.name second.name.form) :
      IsMalformed (objectText spacing (before ++ first :: (between ++ second :: behind)))
  /-- A list of more than two items. -/
  | length {spacing : List Char} {items : List Spaced} (hspacing : IsSpacing spacing)
      (hitems : ∀ item ∈ items, item.IsItem) (hlength : 2 < items.length) :
      IsMalformed (listText spacing items)
  /-- A list with an item that is neither null nor a text. -/
  | item {spacing : List Char} {items : List Spaced} {item : Spaced} (hspacing : IsSpacing spacing)
      (hitems : ∀ item ∈ items, item.IsItem) (hmem : item ∈ items)
      (hvalue : ∀ value?, ¬SpellsNullable value? item.form) :
      IsMalformed (listText spacing items)

theorem reader_value?_object {spacing : List Char} (hspacing : IsSpacing spacing)
    {members : List Member} (hmembers : ∀ member ∈ members, member.IsWritten)
    (hnone : ∀ facts, members.foldlM fieldReader.member? [] ≠ some facts) :
    reader.value? (objectText spacing members) = none := by
  rw [(reader_gives_object hspacing hmembers).value?_eq, Option.map_eq_none_iff]
  exact Option.eq_none_iff_forall_ne_some.2 hnone

theorem reader_value?_list {spacing : List Char} (hspacing : IsSpacing spacing)
    {items : List Spaced} (hitems : ∀ item ∈ items, item.IsItem)
    (hnone : ∀ facts, takeItems? Field.all items [] ≠ some facts) :
    reader.value? (listText spacing items) = none := by
  rw [(reader_gives_list hspacing hitems).value?_eq, Option.map_eq_none_iff]
  exact Option.eq_none_iff_forall_ne_some.2 hnone

/-- Nothing is read of a value that says nothing. -/
theorem IsMalformed.value?_eq_none {form : List Char} (h : IsMalformed form)
    (hform : IsValue form) :
    reader.value? form = none := by
  cases h with
  | kind hobject hlist =>
    obtain hisObject | hisList | ⟨c, cs, rfl, hspace, hnotList, hnotObject⟩ :=
      hform.isObject_or_isList
    · exact absurd hisObject hobject
    · exact absurd hisList hlist
    · exact (reader_gives_none hspace hnotList hnotObject).value?_eq
  | fact hspacing hmembers hmem hname hvalue =>
    refine reader_value?_object hspacing hmembers fun facts hfacts => ?_
    obtain ⟨value?, hspells, -⟩ := lookup_of_mem hmembers hfacts hmem hname
    exact hvalue value? hspells
  | repeated hspacing hmembers hfirst hsecond =>
    refine reader_value?_object hspacing hmembers fun facts hfacts => ?_
    obtain ⟨-, hwritten⟩ := List.forall_mem_append.1 hmembers
    obtain ⟨hfirstWritten, hothers⟩ := List.forall_mem_cons.1 hwritten
    rw [List.foldlM_append] at hfacts
    obtain ⟨before, -, hfacts⟩ := Option.bind_eq_some_iff.1 hfacts
    obtain ⟨between, htake, hfacts⟩ := Option.bind_eq_some_iff.1 hfacts
    obtain ⟨value?, -, -, rfl⟩ := member?_field hfirstWritten hfirst htake
    -- behind its first member the field has been given
    have hnew := lookup_eq_none_of_mem hothers hfacts (by simp) hsecond
    rw [List.lookup_cons_self] at hnew
    contradiction
  | length hspacing hitems hlength =>
    refine reader_value?_list hspacing hitems fun facts hfacts => ?_
    have hle : _ ≤ 2 := (takeItems?_eq_some_iff.1 hfacts).1
    omega
  | item hspacing hitems hmem hvalue =>
    refine reader_value?_list hspacing hitems fun facts hfacts => ?_
    obtain ⟨-, values, hvalues, -⟩ := takeItems?_eq_some_iff.1 hfacts
    rw [mapM_eq_none hmem (nullableString_value?_eq_none (hitems _ hmem).value hvalue)] at hvalues
    contradiction

end Keyword

namespace Listing

/-- The values that do not say which keys a section has. -/
inductive IsMalformedSection : List Char → Prop where
  /-- A value that is no object. -/
  | kind {form : List Char} (hobject : ¬IsObject form) : IsMalformedSection form
  /-- An object with an entry that says nothing about its key. -/
  | entry {spacing : List Char} {keys : List Member} {key : Member} (hspacing : IsSpacing spacing)
      (hkeys : ∀ key ∈ keys, key.IsWritten) (hmem : key ∈ keys)
      (hentry : Keyword.IsMalformed key.value.form) : IsMalformedSection (objectText spacing keys)

theorem IsMalformedSection.value?_eq_none {form : List Char} (h : IsMalformedSection form)
    (hform : IsValue form) : Keyword.reader.pairs.value? form = none := by
  cases h with
  | kind hobject => exact (Reader.pairs_gives_none _ hform hobject).value?_eq
  | @entry spacing keys key hspacing hkeys hmem hentry =>
    rw [(Reader.pairs_gives_object Keyword.reader_isLocal hspacing hkeys).value?_eq]
    exact mapM_eq_none hmem (Reader.pair?_eq_none (hentry.value?_eq_none (hkeys key hmem).value))

/-- Where one section is malformed, the whole text is. -/
theorem ofText_malformed {text : String} {before spacing behind : List Char}
    {sections : List Member} (hbefore : IsSpacing before) (hspacing : IsSpacing spacing)
    (hbehind : IsSpacing behind) (hsections : ∀ entry ∈ sections, entry.IsWritten)
    (htext : text.toList = before ++ (objectText spacing sections ++ behind)) {entry : Member}
    (hmem : entry ∈ sections) (hentry : IsMalformedSection entry.value.form) :
    ∃ error, ofText text = .error error := by
  have hread : (ofText text).toOption = reader.value? (objectText spacing sections) :=
    reader_isLocal.readText hbefore (.of_members hspacing hsections) hbehind htext
  rw [← toOption_eq_none_iff, hread]
  change Keyword.reader.pairs.pairs.value? _ = none
  rw [(Reader.pairs_gives_object (Reader.pairs_isLocal Keyword.reader_isLocal) hspacing
    hsections).value?_eq]
  have hnone := hentry.value?_eq_none (hsections entry hmem).value
  exact mapM_eq_none hmem (Reader.pair?_eq_none hnone)

end Listing

namespace Registry

/-- A catalog with a malformed section is turned away, wherever the section stands and whatever
comes after it. -/
theorem ofSource_malformed {source : Source} {before spacing behind : List Char}
    {sections : List Member} (hbefore : IsSpacing before) (hspacing : IsSpacing spacing)
    (hbehind : IsSpacing behind) (hsections : ∀ entry ∈ sections, entry.IsWritten)
    (htext : source.catalogText.toList = before ++ (objectText spacing sections ++ behind))
    {entry : Member} (hmem : entry ∈ sections)
    (hentry : Listing.IsMalformedSection entry.value.form) :
    ∃ error, (ofSource source).value = .error (.catalog error) := by
  obtain ⟨error, herror⟩ :=
    Listing.ofText_malformed hbefore hspacing hbehind hsections htext hmem hentry
  exact ⟨error, value_ofSource_eq_error herror⟩

/-- A fact is given twice, once with an escape, in a section that is named again later. -/
theorem ofSource_malformed_repeated :
    ∃ error, (ofSource (.ofTexts ("\x7b\"Unit\":\x7b\"A\":\x7b\"declaredInFile\":null," ++
      "\"\\u0064eclaredInFile\":null\x7d\x7d,\"Unit\":\x7b\x7d\x7d") "")).value =
        .error (.catalog error) := by
  have hunit : SpellsString "Unit" "\"Unit\"".toList := .quoted (.of_plain rfl)
  have hkey : SpellsString "A" "\"A\"".toList := .quoted (.of_plain rfl)
  have hplain : SpellsString Keyword.Field.manual.name "\"declaredInFile\"".toList :=
    .quoted (.of_plain rfl)
  have hchars : SpellsChars "declaredInFile".toList "\\u0064eclaredInFile".toList :=
    .cons (.unit (.digits (.inl rfl) (.inl rfl) (.inl rfl) (.inl rfl))) (.of_plain rfl)
  have hescaped : SpellsString Keyword.Field.manual.name _ := .quoted hchars
  have hfirst := Member.tight_isWritten hplain.isQuoted .null
  have hsecond := Member.tight_isWritten hescaped.isQuoted .null
  have hfacts : ∀ member ∈ [_, _], Member.IsWritten member :=
    List.forall_mem_cons.2 ⟨hfirst, List.forall_mem_singleton.2 hsecond⟩
  have hentry := Member.tight_isWritten hkey.isQuoted (.of_members .nil hfacts)
  have hkeys : ∀ key ∈ [_], Member.IsWritten key := List.forall_mem_singleton.2 hentry
  have hsection := Member.tight_isWritten hunit.isQuoted (.of_members .nil hkeys)
  have hempty := Member.tight_isWritten hunit.isQuoted (.of_members .nil (List.forall_mem_nil _))
  have hsections : ∀ entry ∈ [_, _], Member.IsWritten entry :=
    List.forall_mem_cons.2 ⟨hsection, List.forall_mem_singleton.2 hempty⟩
  have hrepeated : Keyword.IsMalformed (objectText [] ([] ++ _ :: ([] ++ _ :: []))) :=
    .repeated .nil hfacts hplain hescaped
  exact ofSource_malformed .nil .nil .nil hsections (by decide) List.mem_cons_self
    (.entry .nil hkeys List.mem_cons_self hrepeated)

end Registry

end UnitLint
