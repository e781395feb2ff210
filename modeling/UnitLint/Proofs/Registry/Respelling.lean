import UnitLint.Proofs.Catalog.Meaning
import UnitLint.Proofs.Registry.Spelling

/-!
# Respelled entries

How an entry is written makes no difference. Members that nobody asks for may stand next to the
facts about a key, with any value, and the facts may as well be given as a list. Around the entry
the text of the catalog stays as it is: it is filled into a gap of which only the meaning of the
entry is seen.
-/

namespace UnitLint

namespace Json

variable {α : Type}

/-- An object with a gap in the place of the value of a member. -/
structure Gap where
  spacing : List Char
  earlier : List Member
  member : Member
  later : List Member

namespace Gap

/-- The text of the object with a value in the gap. -/
def fill (gap : Gap) (form : List Char) : List Char :=
  objectText gap.spacing (gap.earlier ++ gap.member.withValue form :: gap.later)

/-- Whether all that stands around the gap belongs to an object. -/
structure IsWritten (gap : Gap) : Prop where
  spacing : IsSpacing gap.spacing
  earlier : ∀ member ∈ gap.earlier, member.IsWritten
  spaced : gap.member.IsSpaced
  name : IsQuoted gap.member.name.form
  later : ∀ member ∈ gap.later, member.IsWritten

/-- An object of one member without any white space. -/
def tight (name : List Char) : Gap := ⟨[], [], .tight name [], []⟩

theorem tight_isWritten {name : List Char} (hname : IsQuoted name) : (tight name).IsWritten :=
  ⟨.nil, List.forall_mem_nil _, ⟨⟨.nil, .nil⟩, ⟨.nil, .nil⟩⟩, hname, List.forall_mem_nil _⟩

variable {gap : Gap} (hgap : gap.IsWritten)
include hgap

theorem IsWritten.members {form : List Char} (hform : IsValue form) :
    ∀ member ∈ gap.earlier ++ gap.member.withValue form :: gap.later, member.IsWritten :=
  List.forall_mem_append.2 ⟨hgap.earlier, List.forall_mem_cons.2
    ⟨⟨⟨hgap.spaced.name, hgap.spaced.value.before, hgap.spaced.value.behind⟩, hgap.name, hform⟩,
      hgap.later⟩⟩

theorem IsWritten.fill_isValue {form : List Char} (hform : IsValue form) :
    IsValue (gap.fill form) :=
  .of_members hgap.spacing (hgap.members hform)

variable {item : Reader α} (hitem : item.IsLocal)
include hitem

theorem IsWritten.value?_fill {form : List Char} (hform : IsValue form) :
    item.pairs.value? (gap.fill form) =
      (gap.earlier ++ gap.member.withValue form :: gap.later).mapM item.pair? :=
  (Reader.pairs_gives_object hitem hgap.spacing (hgap.members hform)).value?_eq

/-- Of what is filled into the gap only the meaning is seen. -/
theorem IsWritten.value?_fill_congr {form form' : List Char} (hform : IsValue form)
    (hform' : IsValue form') (h : item.value? form' = item.value? form) :
    item.pairs.value? (gap.fill form') = item.pairs.value? (gap.fill form) := by
  have hpair : item.pair? (gap.member.withValue form') = item.pair? (gap.member.withValue form) :=
    congrArg (fun value? => (textOf? gap.member.name.form).bind fun key =>
      Option.map (fun value => (key, value)) value?) h
  rw [hgap.value?_fill hitem hform, hgap.value?_fill hitem hform', List.mapM_append,
    List.mapM_append, List.mapM_cons, List.mapM_cons, hpair]

/-- What is filled into the gap has been read where the object has. -/
theorem IsWritten.exists_value?_of_fill {form : List Char} (hform : IsValue form)
    {pairs : List (String × α)} (h : item.pairs.value? (gap.fill form) = some pairs) :
    ∃ value, item.value? form = some value := by
  cases hvalue : item.value? form with
  | some value => exact ⟨value, rfl⟩
  | none =>
    have hpair : item.pair? (gap.member.withValue form) = none := Reader.pair?_eq_none hvalue
    rw [hgap.value?_fill hitem hform, mapM_eq_none (by simp) hpair] at h
    contradiction

end Gap

end Json

open Json

/-! ## Entries -/

namespace Keyword

/-- Whether the members of an object say this and no more about a key: every field that a member
names has the fact of that member, and any other field has none. -/
structure IsSaidBy (keyword : Keyword) (members : List Member) : Prop where
  said : ∀ field, ∀ member ∈ members, SpellsString field.name member.name.form →
    SpellsNullable (keyword.fact? field) member.value.form
  unsaid : ∀ field, (∀ member ∈ members, ¬SpellsString field.name member.name.form) →
    keyword.fact? field = none

/-- The spellings of a keyword as a list of its facts. Facts that are missing may be dropped at the
end. -/
inductive SpellsList (keyword : Keyword) : List Char → Prop where
  | list {given : List (Field × Spaced)} {dropped : List Field} {spacing : List Char}
      (hall : given.map Prod.fst ++ dropped = Field.all)
      (hdropped : ∀ field ∈ dropped, keyword.fact? field = none) (hspacing : IsSpacing spacing)
      (hspaced : ∀ item ∈ given, item.2.IsSpaced)
      (hgiven : ∀ item ∈ given, SpellsNullable (keyword.fact? item.1) item.2.form) :
      SpellsList keyword (listText spacing (given.map Prod.snd))

theorem fact?_ofFacts (facts : Facts) (field : Field) :
    (ofFacts facts).fact? field = (facts.lookup field).join := by
  cases field <;> rfl

/-- What is read of an object is what its members say. -/
theorem isSaidBy_of_value? {spacing : List Char} (hspacing : IsSpacing spacing)
    {members : List Member} (hmembers : ∀ member ∈ members, member.IsWritten) {keyword : Keyword}
    (h : reader.value? (objectText spacing members) = some keyword) : keyword.IsSaidBy members := by
  rw [(reader_gives_object hspacing hmembers).value?_eq, Option.map_eq_some_iff] at h
  obtain ⟨facts, hfacts, rfl⟩ := h
  constructor
  · intro field member hmem hname
    obtain ⟨value?, hvalue, hlookup⟩ := lookup_of_mem hmembers hfacts hmem hname
    rw [fact?_ofFacts, hlookup]
    exact hvalue
  · intro field hnot
    rw [fact?_ofFacts, lookup_of_forall_not hmembers hfacts hnot]
    rfl

/-- A member under a name that is no field's does not change what is read. -/
theorem value?_insert {spacing : List Char} (hspacing : IsSpacing spacing)
    {before behind : List Member} (hmembers : ∀ member ∈ before ++ behind, member.IsWritten)
    {member : Member} (hmember : member.IsWritten) {key : String}
    (hname : SpellsString key member.name.form) (hkey : ∀ field : Field, key ≠ field.name) :
    reader.value? (objectText spacing (before ++ member :: behind)) =
      reader.value? (objectText spacing (before ++ behind)) := by
  obtain ⟨hbefore, hbehind⟩ := List.forall_mem_append.1 hmembers
  have hinserted : ∀ other ∈ before ++ member :: behind, other.IsWritten :=
    List.forall_mem_append.2 ⟨hbefore, List.forall_mem_cons.2 ⟨hmember, hbehind⟩⟩
  have hstep (facts : Facts) : fieldReader.member? facts member = some facts :=
    member?_unknown hmember hname hkey facts
  rw [(reader_gives_object hspacing hmembers).value?_eq,
    (reader_gives_object hspacing hinserted).value?_eq, List.foldlM_append, List.foldlM_append]
  simp only [List.foldlM_cons, hstep, Option.bind_eq_bind, Option.bind_some]

/-- The list of the facts is read as the keyword. -/
theorem SpellsList.value?_eq {keyword : Keyword} {form : List Char} (h : keyword.SpellsList form) :
    IsValue form ∧ reader.value? form = some keyword := by
  obtain @⟨given, dropped, spacing, hall, hdropped, hspacing, hspaced, hgiven⟩ := h
  have hitems : ∀ item ∈ given.map Prod.snd, item.IsItem :=
    List.forall_mem_map.2 fun item hitem => ⟨hspaced item hitem, (hgiven item hitem).isValue⟩
  have hvalues : (given.map Prod.snd).mapM (fun item => nullableString.value? item.form) =
      some (given.map fun item => keyword.fact? item.1) := by
    rw [mapM_eq_some_iff, List.forall₂_map_left_iff, List.forall₂_map_right_iff, List.forall₂_same]
    intro item hitem
    exact (nullableString_value?_eq_some_iff (hgiven item hitem).isValue).2 (hgiven item hitem)
  have hlength : (given.map Prod.snd).length ≤ Field.all.length := by
    rw [← hall]
    simp
  have hzip : Field.all.zip (given.map fun item => keyword.fact? item.1) =
      keyword.facts (given.map Prod.fst) := by
    have happend : (given.map Prod.fst ++ dropped).zip
        ((given.map fun item => keyword.fact? item.1) ++ []) =
          (given.map fun item => (item.1, keyword.fact? item.1)) ++ [] := by
      rw [List.zip_append (by simp), List.zip_map', List.zip_nil_right]
    rw [← hall, facts, List.map_map]
    simpa [Function.comp_def] using happend
  have hmissing : ∀ field, field ∉ (given.map Prod.fst).reverse → keyword.fact? field = none := by
    intro field hnot
    have hmem : field ∈ given.map Prod.fst ++ dropped := by
      rw [hall]
      cases field <;> decide
    refine hdropped field ((List.mem_append.1 hmem).resolve_left ?_)
    exact fun hgiven => hnot (List.mem_reverse.2 hgiven)
  refine ⟨.of_items hspacing hitems, ?_⟩
  rw [(reader_gives_list hspacing hitems).value?_eq,
    takeItems?_eq_some_iff.2 ⟨hlength, _, hvalues, rfl⟩, hzip, Option.map_some, List.append_nil,
    facts, ← List.map_reverse]
  exact congrArg some (keyword.ofFacts_facts hmissing)

end Keyword

/-! ## Texts -/

/-- Where the value of a key stands in the text of a catalog. -/
structure Place where
  before : List Char
  sections : Gap
  keys : Gap
  behind : List Char

namespace Place

/-- The text of the catalog with a value in the place. -/
def text (place : Place) (form : List Char) : String :=
  .ofList (place.before ++ (place.sections.fill (place.keys.fill form) ++ place.behind))

/-- Whether the text around the place is that of a catalog. -/
structure IsWritten (place : Place) : Prop where
  before : IsSpacing place.before
  sections : place.sections.IsWritten
  keys : place.keys.IsWritten
  behind : IsSpacing place.behind

variable {place : Place} (hplace : place.IsWritten)
include hplace

theorem IsWritten.toOption_ofText {form : List Char} (hform : IsValue form) :
    (Listing.ofText (place.text form)).toOption =
      Listing.reader.value? (place.sections.fill (place.keys.fill form)) :=
  Listing.reader_isLocal.readText hplace.before
    (hplace.sections.fill_isValue (hplace.keys.fill_isValue hform)) hplace.behind
    String.toList_ofList

/-- What the text of the catalog is read as depends on no more than what is read in the place. -/
theorem IsWritten.ofText_congr {form form' : List Char} (hform : IsValue form)
    (hform' : IsValue form') (h : Keyword.reader.value? form' = Keyword.reader.value? form) :
    (Listing.ofText (place.text form')).toOption = (Listing.ofText (place.text form)).toOption := by
  have hkeys := hplace.keys.value?_fill_congr Keyword.reader_isLocal hform hform' h
  rw [hplace.toOption_ofText hform, hplace.toOption_ofText hform']
  exact hplace.sections.value?_fill_congr (Reader.pairs_isLocal Keyword.reader_isLocal)
    (hplace.keys.fill_isValue hform) (hplace.keys.fill_isValue hform') hkeys

/-- In the text of a listing every place says something about its key. -/
theorem IsWritten.exists_keyword {form : List Char} (hform : IsValue form) {listing : Listing}
    (h : Listing.ofText (place.text form) = .ok listing) :
    ∃ keyword, Keyword.reader.value? form = some keyword := by
  have hlisting := toOption_eq_some_iff.2 h
  rw [hplace.toOption_ofText hform] at hlisting
  obtain ⟨keys, hkeys⟩ := hplace.sections.exists_value?_of_fill
    (Reader.pairs_isLocal Keyword.reader_isLocal) (hplace.keys.fill_isValue hform) hlisting
  exact hplace.keys.exists_value?_of_fill Keyword.reader_isLocal hform hkeys

end Place

namespace Registry

/-- Another spelling of an entry makes the same registry. -/
theorem value_ofSource_congr {place : Place} (hplace : place.IsWritten) {form form' : List Char}
    (hform : IsValue form) (hform' : IsValue form')
    (h : Keyword.reader.value? form' = Keyword.reader.value? form) {registry : Registry}
    {recordText : String} {library : Library}
    (hload : (ofSource ⟨place.text form, recordText, library⟩).value = .ok registry) :
    (ofSource ⟨place.text form', recordText, library⟩).value = .ok registry := by
  obtain ⟨listing, hlisting⟩ := exists_listing (.inl ⟨registry, hload⟩)
  have hlisting' : Listing.ofText (place.text form') = .ok listing := by
    rw [← toOption_eq_some_iff, hplace.ofText_congr hform hform' h, toOption_eq_some_iff]
    exact hlisting
  obtain ⟨catalog, hcatalog, hsections, rfl⟩ := ofSource_eq_ok_iff.1 hload
  refine ofSource_eq_ok_iff.2 ⟨catalog, ?_, hsections, rfl⟩
  rw [Catalog.ofText, hlisting']
  rw [Catalog.ofText, hlisting] at hcatalog
  exact hcatalog

/-- An entry that is an object may get members that nobody asks for, whatever their values are, and
may become the list of what it says. The registry stays the same. -/
theorem ofSource_respelled {place : Place} (hplace : place.IsWritten) {spacing : List Char}
    (hspacing : IsSpacing spacing) {before behind : List Member}
    (hmembers : ∀ member ∈ before ++ behind, member.IsWritten) {registry : Registry}
    {recordText : String} {library : Library}
    (hload : (ofSource ⟨place.text (objectText spacing (before ++ behind)), recordText,
      library⟩).value = .ok registry) :
    (∀ member key, Member.IsWritten member → SpellsString key member.name.form →
      (∀ field : Keyword.Field, key ≠ field.name) →
      (ofSource ⟨place.text (objectText spacing (before ++ member :: behind)), recordText,
        library⟩).value = .ok registry) ∧
    ∃ keyword, Keyword.IsSaidBy keyword (before ++ behind) ∧ ∀ form, keyword.SpellsList form →
      (ofSource ⟨place.text form, recordText, library⟩).value = .ok registry := by
  have hobject : IsValue (objectText spacing (before ++ behind)) := .of_members hspacing hmembers
  constructor
  · intro member key hmember hname hkey
    obtain ⟨hbefore, hbehind⟩ := List.forall_mem_append.1 hmembers
    have hinserted : ∀ other ∈ before ++ member :: behind, other.IsWritten :=
      List.forall_mem_append.2 ⟨hbefore, List.forall_mem_cons.2 ⟨hmember, hbehind⟩⟩
    exact value_ofSource_congr hplace hobject (.of_members hspacing hinserted)
      (Keyword.value?_insert hspacing hmembers hmember hname hkey) hload
  · obtain ⟨listing, hlisting⟩ := exists_listing (.inl ⟨registry, hload⟩)
    obtain ⟨keyword, hkeyword⟩ := hplace.exists_keyword hobject hlisting
    refine ⟨keyword, Keyword.isSaidBy_of_value? hspacing hmembers hkeyword, fun form hform => ?_⟩
    obtain ⟨hvalue, hread⟩ := hform.value?_eq
    exact value_ofSource_congr hplace hobject hvalue (hread.trans hkeyword.symm) hload

/-- An entry without facts, with a member that nobody asks for, and as a list. -/
theorem ofSource_respelled_empty :
    ∃ registry,
      (ofSource ⟨"\x7b\"Unit\":\x7b\"A\":\x7b\x7d\x7d\x7d", "", .empty⟩).value = .ok registry ∧
      (ofSource ⟨"\x7b\"Unit\":\x7b\"A\":\x7b\"B\":[true]\x7d\x7d\x7d", "", .empty⟩).value =
        .ok registry ∧
      (ofSource ⟨"\x7b\"Unit\":\x7b\"A\":[]\x7d\x7d", "", .empty⟩).value = .ok registry := by
  have hunit : SpellsString "Unit" "\"Unit\"".toList := .quoted (.of_plain rfl)
  have hkey : SpellsString "A" "\"A\"".toList := .quoted (.of_plain rfl)
  have hname : SpellsString "B" "\"B\"".toList := .quoted (.of_plain rfl)
  have hplace : Place.IsWritten ⟨[], .tight _, .tight _, []⟩ :=
    ⟨.nil, Gap.tight_isWritten hunit.isQuoted, Gap.tight_isWritten hkey.isQuoted, .nil⟩
  have hbare : "\x7b\"Unit\":\x7b\"A\":\x7b\x7d\x7d\x7d" =
      Place.text ⟨[], .tight "\"Unit\"".toList, .tight "\"A\"".toList, []⟩
        (objectText [] ([] ++ [])) := by decide
  have hwith : "\x7b\"Unit\":\x7b\"A\":\x7b\"B\":[true]\x7d\x7d\x7d" =
      Place.text ⟨[], .tight "\"Unit\"".toList, .tight "\"A\"".toList, []⟩
        (objectText [] ([] ++ .tight "\"B\"".toList
          (listText [] [⟨[], "true".toList, []⟩]) :: [])) := by decide
  have hlisted : "\x7b\"Unit\":\x7b\"A\":[]\x7d\x7d" =
      Place.text ⟨[], .tight "\"Unit\"".toList, .tight "\"A\"".toList, []⟩
        (listText [] []) := by decide
  have hmissing : Keyword.Spells ⟨none, none⟩ "\x7b\x7d".toList :=
    .object [] (by decide) (by rintro (_ | _) _ <;> rfl) (.empty .nil)
  have hentry : SpellsMember Keyword.Spells ("A", ⟨none, none⟩) _ := .tight hkey hmissing
  have hsection : SpellsMember (SpellsObject Keyword.Spells) ("Unit", [("A", ⟨none, none⟩)]) _ :=
    .tight hunit (.members (.last hentry))
  have hspells : Listing.Spells [("Unit", [("A", ⟨none, none⟩)])]
      "\x7b\"Unit\":\x7b\"A\":\x7b\x7d\x7d\x7d" :=
    .object .nil (.members (.last hsection)) .nil (by decide)
  have hload := value_ofSource_spelled ⟨_, "", .empty⟩ (List.cons_ne_nil _ _) hspells
  rw [hbare] at hload
  have hnone : ∀ member ∈ ([] ++ [] : List Member), member.IsWritten := List.forall_mem_nil _
  obtain ⟨hinsert, keyword, hsaid, hlist⟩ := ofSource_respelled hplace .nil hnone hload
  have hitems : ∀ item ∈ [(⟨[], "true".toList, []⟩ : Spaced)], item.IsItem :=
    List.forall_mem_singleton.2 ⟨⟨.nil, .nil⟩, .yes⟩
  have hmember := Member.tight_isWritten hname.isQuoted (.of_items .nil hitems)
  have hinserted := hinsert _ "B" hmember hname (by rintro (_ | _) <;> decide)
  have hempty : keyword.SpellsList (listText [] (List.map Prod.snd [])) :=
    .list (List.nil_append _) (fun field _ => hsaid.unsaid field (List.forall_mem_nil _)) .nil
      (List.forall_mem_nil _) (List.forall_mem_nil _)
  rw [hbare, hwith, hlisted]
  exact ⟨_, hload, hinserted, hlist _ hempty⟩

end Registry

end UnitLint
