import UnitLint.Proofs.Registry.Respelling

/-!
# The listing that a text tells

Which texts can be read as a listing, and as which one, said by their members and items: a text is
malformed exactly if it tells no listing. Objects inside objects are told by the values of their
members, so it is enough to say what is told of a key.
-/

namespace UnitLint

open Json

namespace Json

variable {α : Type}

theorem SpellsNullable.unique {first second : Option String} {form : List Char}
    (hfirst : SpellsNullable first form) (hsecond : SpellsNullable second form) :
    first = second := by
  have hform : IsValue form := hfirst.isValue
  rw [← nullableString_value?_eq_some_iff hform] at hfirst hsecond
  exact Option.some.inj (hfirst.symm.trans hsecond)

theorem forall₂_congr_of_mem {β γ : Type} {first second : β → γ → Prop} {bs : List β} {cs : List γ}
    (h : ∀ b ∈ bs, ∀ c, first b c ↔ second b c) :
    List.Forall₂ first bs cs ↔ List.Forall₂ second bs cs := by
  induction bs generalizing cs with
  | nil => simp only [List.forall₂_nil_left_iff]
  | cons b bs ih =>
    obtain ⟨hb, hbs⟩ := List.forall_mem_cons.1 h
    simp only [List.forall₂_cons_left_iff, hb, ih hbs]

/-- Whether a member names the key of a pair and tells its value. -/
def TellsPair (tells : α → List Char → Prop) (member : Member) (pair : String × α) : Prop :=
  SpellsString pair.1 member.name.form ∧ tells pair.2 member.value.form

/-- The objects that tell pairs, one with each member. -/
inductive TellsPairs (tells : α → List Char → Prop) (pairs : List (String × α)) :
    List Char → Prop where
  | object {spacing : List Char} {members : List Member} (hspacing : IsSpacing spacing)
      (hmembers : ∀ member ∈ members, member.IsWritten)
      (hpairs : List.Forall₂ (TellsPair tells) members pairs) :
      TellsPairs tells pairs (objectText spacing members)

theorem TellsPairs.isValue {tells : α → List Char → Prop} {pairs : List (String × α)}
    {form : List Char} (h : TellsPairs tells pairs form) : IsValue form := by
  obtain ⟨hspacing, hmembers, -⟩ := h
  exact .of_members hspacing hmembers

namespace Reader

/-- Whether what is read of a value is what it tells. -/
def ReadsTold (reader : Reader α) (tells : α → List Char → Prop) : Prop :=
  ∀ ⦃form⦄, IsValue form → ∀ {value}, reader.value? form = some value ↔ tells value form

variable {item : Reader α} {tells : α → List Char → Prop} (htold : item.ReadsTold tells)
include htold

theorem ReadsTold.pair?_eq_some_iff {member : Member} (hmember : member.IsWritten)
    {pair : String × α} : item.pair? member = some pair ↔ TellsPair tells member pair := by
  obtain ⟨key, value⟩ := pair
  rw [TellsPair, ← textOf?_eq_some_iff hmember.name, ← htold hmember.value, pair?]
  cases textOf? member.name.form with
  | none => simp
  | some name => simp [and_left_comm]

theorem ReadsTold.pairs_value?_eq_some_iff (hitem : item.IsLocal) {spacing : List Char}
    (hspacing : IsSpacing spacing) {members : List Member}
    (hmembers : ∀ member ∈ members, member.IsWritten) {pairs : List (String × α)} :
    item.pairs.value? (objectText spacing members) = some pairs ↔
      List.Forall₂ (TellsPair tells) members pairs := by
  rw [(pairs_gives_object hitem hspacing hmembers).value?_eq, mapM_eq_some_iff]
  apply forall₂_congr_of_mem
  intro member hmem pair
  exact htold.pair?_eq_some_iff (hmembers member hmem)

/-- What is read of the members of an object makes what is read of the object. -/
theorem ReadsTold.pairs (hitem : item.IsLocal) : item.pairs.ReadsTold (TellsPairs tells) := by
  intro form hform pairs
  constructor
  · intro hvalue
    by_cases hobject : IsObject form
    · obtain ⟨spacing, members, hspacing, hmembers, rfl⟩ := hobject
      exact .object hspacing hmembers
        ((htold.pairs_value?_eq_some_iff hitem hspacing hmembers).1 hvalue)
    · rw [(pairs_gives_none item hform hobject).value?_eq] at hvalue
      contradiction
  · rintro ⟨hspacing, hmembers, hpairs⟩
    exact (htold.pairs_value?_eq_some_iff hitem hspacing hmembers).2 hpairs

end Reader

end Json

/-! ## Keys -/

namespace Keyword

/-- Whether no two members name the same field. -/
def NameOnce (members : List Member) : Prop :=
  ∀ field : Field, members.Pairwise fun first second =>
    SpellsString field.name first.name.form → ¬SpellsString field.name second.name.form

/-- Whether the members of an object tell what is known about a key: every name is a text, no field
is named twice, and this is what they say. -/
structure IsToldByMembers (keyword : Keyword) (members : List Member) : Prop where
  named : ∀ member ∈ members, ∃ key, SpellsString key member.name.form
  once : NameOnce members
  said : keyword.IsSaidBy members

/-- The values that tell what is known about a key. -/
inductive IsToldBy (keyword : Keyword) : List Char → Prop where
  | object {spacing : List Char} {members : List Member} (hspacing : IsSpacing spacing)
      (hmembers : ∀ member ∈ members, member.IsWritten) (htold : keyword.IsToldByMembers members) :
      IsToldBy keyword (objectText spacing members)
  | list {form : List Char} (hform : keyword.SpellsList form) : IsToldBy keyword form

theorem ext_fact? {first second : Keyword}
    (h : ∀ field, first.fact? field = second.fact? field) : first = second := by
  obtain ⟨anchor?, manual?⟩ := first
  obtain rfl : anchor? = second.anchor? := h .anchor
  obtain rfl : manual? = second.manual? := h .manual
  rfl

/-- Members say one thing at most. -/
theorem IsSaidBy.unique {first second : Keyword} {members : List Member}
    (hfirst : first.IsSaidBy members) (hsecond : second.IsSaidBy members) : first = second := by
  refine ext_fact? fun field => ?_
  by_cases hnamed : ∃ member ∈ members, SpellsString field.name member.name.form
  · obtain ⟨member, hmem, hname⟩ := hnamed
    exact (hfirst.said field member hmem hname).unique (hsecond.said field member hmem hname)
  · have hnot : ∀ member ∈ members, ¬SpellsString field.name member.name.form :=
      fun member hmem hname => hnamed ⟨member, hmem, hname⟩
    rw [hfirst.unsaid field hnot, hsecond.unsaid field hnot]

/-- A member that gives a new fact is taken up. -/
theorem member?_new {before : Facts} {member : Member} (hmember : member.IsWritten) {field : Field}
    (hname : SpellsString field.name member.name.form) (hnew : before.lookup field = none)
    {value? : Option String} (hvalue : SpellsNullable value? member.value.form) :
    fieldReader.member? before member = some ((field, value?) :: before) := by
  have htake := (fieldReader_gives_field before field.ofName?_name hmember.value).takeUp?_eq
  rw [(nullableString_value?_eq_some_iff hmember.value).2 hvalue, hnew] at htake
  rw [MemberReader.member?, (textOf?_eq_some_iff hmember.name).2 hname, Option.bind_some, htake]
  rfl

/-- Members are all taken up if their names are texts, no field is given again, and what is given is
a text or null. The induction is on the members; what has been given before is not named by any that
is still to come. -/
theorem exists_foldlM {before : Facts} {members : List Member}
    (hmembers : ∀ member ∈ members, member.IsWritten)
    (hnamed : ∀ member ∈ members, ∃ key, SpellsString key member.name.form)
    (honce : NameOnce members)
    (hvalues : ∀ field : Field, ∀ member ∈ members, SpellsString field.name member.name.form →
      ∃ value?, SpellsNullable value? member.value.form)
    (hnew : ∀ field : Field, ∀ member ∈ members, SpellsString field.name member.name.form →
      before.lookup field = none) :
    ∃ after, members.foldlM fieldReader.member? before = some after := by
  induction members generalizing before with
  | nil => exact ⟨before, rfl⟩
  | cons first members ih =>
    obtain ⟨hfirst, hmembers⟩ := List.forall_mem_cons.1 hmembers
    obtain ⟨⟨key, hkey⟩, hnamed⟩ := List.forall_mem_cons.1 hnamed
    have hlater : ∀ field : Field, ∀ member ∈ members,
        SpellsString field.name member.name.form → before.lookup field = none :=
      fun field member hmem => hnew field member (List.mem_cons_of_mem first hmem)
    have hothers : ∀ {between : Facts}, (∀ field : Field, ∀ member ∈ members,
          SpellsString field.name member.name.form → between.lookup field = none) →
        ∃ after, members.foldlM fieldReader.member? between = some after :=
      ih hmembers hnamed (fun field => (List.pairwise_cons.1 (honce field)).2)
        fun field member hmem => hvalues field member (List.mem_cons_of_mem first hmem)
    rw [List.foldlM_cons]
    by_cases hfield : ∃ field : Field, key = field.name
    · obtain ⟨field, rfl⟩ := hfield
      obtain ⟨value?, hvalue⟩ := hvalues field first List.mem_cons_self hkey
      rw [member?_new hfirst hkey (hnew field first List.mem_cons_self hkey) hvalue]
      refine hothers fun other member hmem hname => ?_
      have hne : other ≠ field := by
        rintro rfl
        exact (List.pairwise_cons.1 (honce other)).1 member hmem hkey hname
      rw [List.lookup_cons, beq_false_of_ne hne]
      exact hlater other member hmem hname
    · rw [member?_unknown hfirst hkey (not_exists.1 hfield) before]
      exact hothers hlater

section Run

variable {before after : Facts} {members : List Member}
  (hmembers : ∀ member ∈ members, member.IsWritten)
  (h : members.foldlM fieldReader.member? before = some after)
include hmembers h

theorem exists_key_of_foldlM : ∀ member ∈ members, ∃ key, SpellsString key member.name.form := by
  induction members generalizing before with
  | nil => exact List.forall_mem_nil _
  | cons first members ih =>
    obtain ⟨hfirst, hmembers⟩ := List.forall_mem_cons.1 hmembers
    obtain ⟨between, htake, hothers⟩ := Option.bind_eq_some_iff.1 h
    obtain ⟨key, hkey, -⟩ := member?_cases hfirst htake
    exact List.forall_mem_cons.2 ⟨⟨key, hkey⟩, ih hmembers hothers⟩

theorem nameOnce_of_foldlM : NameOnce members := by
  intro field
  induction members generalizing before with
  | nil => exact .nil
  | cons first members ih =>
    obtain ⟨hfirst, hmembers⟩ := List.forall_mem_cons.1 hmembers
    obtain ⟨between, htake, hothers⟩ := Option.bind_eq_some_iff.1 h
    refine .cons (fun second hmem hname hagain => ?_) (ih hmembers hothers)
    obtain ⟨value?, -, -, rfl⟩ := member?_field hfirst hname htake
    have hnew := lookup_eq_none_of_mem hmembers hothers hmem hagain
    rw [List.lookup_cons_self] at hnew
    contradiction

end Run

/-- What is read of an object is what its members tell. -/
theorem reader_value?_object_eq_some_iff {spacing : List Char} (hspacing : IsSpacing spacing)
    {members : List Member} (hmembers : ∀ member ∈ members, member.IsWritten)
    {keyword : Keyword} :
    reader.value? (objectText spacing members) = some keyword ↔
      keyword.IsToldByMembers members := by
  have hgives := (reader_gives_object hspacing hmembers).value?_eq
  constructor
  · intro hvalue
    have hsaid := isSaidBy_of_value? hspacing hmembers hvalue
    rw [hgives] at hvalue
    obtain ⟨facts, hfacts, -⟩ := Option.map_eq_some_iff.1 hvalue
    exact ⟨exists_key_of_foldlM hmembers hfacts, nameOnce_of_foldlM hmembers hfacts, hsaid⟩
  · rintro ⟨hnamed, honce, hsaid⟩
    obtain ⟨facts, hfacts⟩ := exists_foldlM hmembers hnamed honce
      (fun field member hmem hname => ⟨_, hsaid.said field member hmem hname⟩)
      (fun field member hmem hname => List.lookup_nil)
    rw [hfacts] at hgives
    rw [hgives, Option.map_some, (isSaidBy_of_value? hspacing hmembers hgives).unique hsaid]

/-- Items give the facts of the fields in whose places they stand, and no others. The induction is
on the fields; those that are still to come have not been given before. -/
theorem exists_given {fields : List Field} {items : List Spaced} {before facts : Facts}
    (hitems : ∀ item ∈ items, item.IsItem) (hnodup : fields.Nodup)
    (h : takeItems? fields items before = some facts) :
    ∃ (given : List (Field × Spaced)) (dropped : List Field),
      given.map Prod.fst ++ dropped = fields ∧ given.map Prod.snd = items ∧
      (∀ item ∈ given, ∃ value?, facts.lookup item.1 = some value? ∧
        SpellsNullable value? item.2.form) ∧
      ∀ field, field ∉ given.map Prod.fst → facts.lookup field = before.lookup field := by
  induction fields generalizing items before with
  | nil =>
    cases items with
    | nil =>
      cases h
      exact ⟨[], [], rfl, rfl, List.forall_mem_nil _, fun field _ => rfl⟩
    | cons item items => contradiction
  | cons first fields ih =>
    cases items with
    | nil =>
      cases h
      exact ⟨[], _, rfl, rfl, List.forall_mem_nil _, fun field _ => rfl⟩
    | cons item items =>
      obtain ⟨hitem, hitems⟩ := List.forall_mem_cons.1 hitems
      obtain ⟨hfirst, hnodup⟩ := List.nodup_cons.1 hnodup
      obtain ⟨value?, hvalue, hothers⟩ := Option.bind_eq_some_iff.1 h
      obtain ⟨given, dropped, rfl, rfl, hgiven, hkept⟩ := ih hitems hnodup hothers
      refine ⟨(first, item) :: given, dropped, rfl, rfl, List.forall_mem_cons.2 ⟨?_, hgiven⟩, ?_⟩
      · refine ⟨value?, ?_, (nullableString_value?_eq_some_iff hitem.value).1 hvalue⟩
        rw [hkept first fun hmem => hfirst (List.mem_append_left dropped hmem)]
        exact List.lookup_cons_self
      · intro field hnot
        rw [List.map_cons, List.mem_cons, not_or] at hnot
        obtain ⟨hne, hnot⟩ := hnot
        rw [hkept field hnot, List.lookup_cons, beq_false_of_ne hne]

/-- A list that can be read gives the facts of the keyword by their places. -/
theorem spellsList_of_value? {spacing : List Char} (hspacing : IsSpacing spacing)
    {items : List Spaced} (hitems : ∀ item ∈ items, item.IsItem) {keyword : Keyword}
    (h : reader.value? (listText spacing items) = some keyword) :
    keyword.SpellsList (listText spacing items) := by
  rw [(reader_gives_list hspacing hitems).value?_eq, Option.map_eq_some_iff] at h
  obtain ⟨facts, hfacts, rfl⟩ := h
  obtain ⟨given, dropped, hall, rfl, hgiven, hkept⟩ := exists_given hitems (by decide) hfacts
  refine .list hall ?_ hspacing (fun item hmem => ?_) fun item hmem => ?_
  · intro field hdropped
    have hnodup : (given.map Prod.fst ++ dropped).Nodup := hall ▸ by decide
    have hnot : field ∉ given.map Prod.fst := fun hmem =>
      List.disjoint_of_nodup_append hnodup hmem hdropped
    rw [fact?_ofFacts, hkept field hnot]
    rfl
  · exact (hitems item.2 (List.mem_map_of_mem hmem)).spaced
  · obtain ⟨value?, hlookup, hvalue⟩ := hgiven item hmem
    rw [fact?_ofFacts, hlookup]
    exact hvalue

theorem reader_readsTold : reader.ReadsTold IsToldBy := by
  intro form hform keyword
  constructor
  · intro hvalue
    obtain ⟨spacing, members, hspacing, hmembers, rfl⟩ | ⟨spacing, items, hspacing, hitems, rfl⟩ |
        ⟨c, cs, rfl, hspace, hlist, hobject⟩ := hform.isObject_or_isList
    · exact .object hspacing hmembers
        ((reader_value?_object_eq_some_iff hspacing hmembers).1 hvalue)
    · exact .list (spellsList_of_value? hspacing hitems hvalue)
    · rw [(reader_gives_none hspace hlist hobject).value?_eq] at hvalue
      contradiction
  · intro htold
    cases htold with
    | object hspacing hmembers htold =>
      exact (reader_value?_object_eq_some_iff hspacing hmembers).2 htold
    | list hlist => exact hlist.value?_eq.2

end Keyword

/-! ## Texts -/

namespace Listing

/-- The texts that tell a listing: an object of sections, each an object of keys. -/
inductive IsToldBy (listing : Listing) (text : String) : Prop where
  | text {before form behind : List Char} (hbefore : IsSpacing before)
      (hform : TellsPairs (TellsPairs Keyword.IsToldBy) listing form)
      (hbehind : IsSpacing behind) (htext : text.toList = before ++ (form ++ behind)) :
      IsToldBy listing text

theorem reader_readsTold : reader.ReadsTold (TellsPairs (TellsPairs Keyword.IsToldBy)) :=
  (Keyword.reader_readsTold.pairs Keyword.reader_isLocal).pairs
    (Reader.pairs_isLocal Keyword.reader_isLocal)

/-- A text is read as the listing that it tells, and is not read if it tells none. -/
theorem ofText_eq_ok_iff {listing : Listing} {text : String} :
    ofText text = .ok listing ↔ listing.IsToldBy text := by
  constructor
  · intro hread
    obtain ⟨rest, hcs, hrest⟩ := Reader.readText_eq_ok_iff.1 hread
    obtain ⟨before, form, hbefore, hform, htext⟩ := Keyword.reader_takesValues.pairs.pairs hcs
    have hvalue := reader_isLocal.readText hbefore hform hrest htext
    change (ofText text).toOption = _ at hvalue
    rw [hread] at hvalue
    exact .text hbefore ((reader_readsTold hform).1 hvalue.symm) hrest htext
  · rintro ⟨hbefore, hform, hbehind, htext⟩
    have hvalue := reader_isLocal.readText hbefore hform.isValue hbehind htext
    rw [(reader_readsTold hform.isValue).2 hform] at hvalue
    exact toOption_eq_some_iff.1 hvalue

end Listing

end UnitLint
