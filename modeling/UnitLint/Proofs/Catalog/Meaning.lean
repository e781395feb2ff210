import UnitLint.Catalog.Listing
import UnitLint.Proofs.Catalog.Spelling
import UnitLint.Proofs.Json.Meaning

/-!
# What is read of a catalog

What is known about a key is told by an object or by a list. In an object a member under a name that
is no field's leaves everything as it is, and any other member has to be the first of its name and
to give a text or null. A list gives its facts by their places. Any other value is no keyword.
-/

namespace UnitLint

open Json

namespace Keyword

/-! ## What is taken -/

theorem fieldReader_takesValues : fieldReader.TakesValues := by
  intro before key cs after rest h
  replace h : readField before key cs = .ok (after, rest) := h
  rw [readField] at h
  split at h
  · split at h
    · contradiction
    · next hcolon =>
      obtain ⟨_, hvalue, heq⟩ := exists_of_map_eq_ok h
      cases heq
      obtain ⟨behind, hbehind, rfl⟩ := eq_append_of_skipColon hcolon
      obtain ⟨spacing, form, hspacing, hform, rfl⟩ := eq_append_of_skipValue hvalue
      exact ⟨behind, spacing, form, hbehind, hspacing, hform, rfl⟩
  · split at h
    · contradiction
    · obtain ⟨⟨_, _⟩, hvalue, heq⟩ := exists_of_map_eq_ok h
      cases heq
      exact nullableString_takesValues.readBehindColon hvalue

/-- The facts of a list are its items, if its end comes behind them. The induction is on the fields
that may still come. -/
theorem eq_append_of_readFacts {before facts : Facts} {fields : List Field}
    {cs behind rest : List Char} (h : readFacts before cs fields = .ok (facts, behind))
    (hclose : closeList behind = .ok rest) :
    ∃ (spacing : List Char) (items : List Spaced), IsSpacing spacing ∧
      (∀ item ∈ items, item.IsItem) ∧
      cs = spacing ++ (remaining before.isEmpty (items.map Spaced.text) ++ ']' :: rest) := by
  induction fields generalizing before cs with
  | nil =>
    cases h
    obtain ⟨spacing, hspacing, rfl⟩ := eq_append_of_closeList hclose
    refine ⟨spacing, [], hspacing, by simp, ?_⟩
    rw [List.map_nil, remaining_nil, List.nil_append]
  | cons field fields ih =>
    rw [readFacts] at h
    split at h
    · contradiction
    · next hitem =>
      cases h
      obtain ⟨spacing, after, hspacing, rfl, rfl⟩ := Reader.eq_append_of_readItem_none hitem
      cases (closeList_bracket after).symm.trans hclose
      refine ⟨spacing, [], hspacing, by simp, ?_⟩
      rw [List.map_nil, remaining_nil, List.nil_append]
    · next hitem =>
      obtain ⟨after, items, hafter, hitems, rfl⟩ := ih h
      obtain ⟨opening, front, form, hopening, hfront, hform, rfl⟩ :=
        nullableString_takesValues.readItem hitem
      obtain ⟨spacing, hspacing, heq⟩ := exists_remaining hopening
        (Spaced.text ⟨front, form, after⟩) (items.map Spaced.text)
      refine ⟨spacing, ⟨front, form, after⟩ :: items, hspacing,
        List.forall_mem_cons.2 ⟨⟨⟨hfront, hafter⟩, hform⟩, hitems⟩, ?_⟩
      rw [List.map_cons, ← List.append_assoc spacing, ← heq]
      simp [Spaced.text, remaining]

theorem reader_takesValues : reader.TakesValues := by
  intro cs keyword rest h
  replace h : read cs = .ok (keyword, rest) := h
  rw [read] at h
  split at h
  · contradiction
  · next heq =>
    obtain ⟨before, hbefore, rfl⟩ := exists_spacing_of_eq heq
    split at h
    · next hopen =>
      obtain ⟨⟨_, _⟩, hmembers, heq⟩ := exists_of_map_eq_ok h
      cases heq
      obtain ⟨spacing, members, hspacing, hmembers, heq⟩ := fieldReader_takesValues.object hmembers
      exact ⟨before, _, hbefore, .of_members hspacing hmembers, by rw [hopen, heq]⟩
    · split at h
      · next hopen =>
        rw [readList] at h
        split at h
        · contradiction
        · next hfacts =>
          obtain ⟨_, hclose, heq⟩ := exists_of_map_eq_ok h
          cases heq
          obtain ⟨spacing, items, hspacing, hitems, rfl⟩ := eq_append_of_readFacts hfacts hclose
          refine ⟨before, _, hbefore, .of_items hspacing hitems, ?_⟩
          simp [hopen, listText, remaining]
      · contradiction

/-! ## Members -/

/-- A member under a name that is no field's changes nothing, whatever its value is. -/
theorem fieldReader_gives_unknown (before : Facts) {key : String} (hkey : Field.ofName? key = none)
    {form : List Char} (hform : IsValue form) :
    fieldReader.Gives before key form (some before) := by
  intro behind spacing rest hbehind hspacing hrest
  change (readField _ _ _).toOption = _
  rw [readField, hkey]
  simp only [skipColon_spacing hbehind, hform.skipValue_append hspacing hrest]
  rfl

/-- A field is taken up if it has not been given before and its value can be read. -/
theorem fieldReader_gives_field (before : Facts) {key : String} {field : Field}
    (hkey : Field.ofName? key = some field) {form : List Char} (hform : IsValue form) :
    fieldReader.Gives before key form
      (if (before.lookup field).isSome then none
        else (nullableString.value? form).map fun value? => (field, value?) :: before) := by
  intro behind spacing rest hbehind hspacing hrest
  change (readField _ _ _).toOption = _
  rw [readField, hkey]
  dsimp only
  split
  · rfl
  · rw [toOption_map, nullableString.toOption_readBehindColon hbehind,
      nullableString_isLocal hform hspacing hrest, Option.map_map, Option.map_map]
    rfl

theorem fieldReader_isLocal : fieldReader.IsLocal := by
  refine .of_gives fun before key form hform => ?_
  cases hkey : Field.ofName? key with
  | none => exact ⟨_, fieldReader_gives_unknown before hkey hform⟩
  | some field => exact ⟨_, fieldReader_gives_field before hkey hform⟩

theorem Field.eq_name_of_ofName? {key : String} {field : Field}
    (h : Field.ofName? key = some field) : key = field.name := by
  have hname := List.find?_some h
  exact (of_decide_eq_true hname).symm

/-- All that a member can do: leave everything as it is under a name that is no field's, or give a
fact that has not been given before. -/
theorem member?_cases {before after : Facts} {member : Member} (hmember : member.IsWritten)
    (h : fieldReader.member? before member = some after) :
    ∃ key, SpellsString key member.name.form ∧
      (Field.ofName? key = none ∧ after = before ∨
        ∃ field value?, key = field.name ∧ before.lookup field = none ∧
          SpellsNullable value? member.value.form ∧ after = (field, value?) :: before) := by
  obtain ⟨key, hkey, htake⟩ := Option.bind_eq_some_iff.1 h
  refine ⟨key, (textOf?_eq_some_iff hmember.name).1 hkey, ?_⟩
  cases hfield : Field.ofName? key with
  | none =>
    rw [(fieldReader_gives_unknown before hfield hmember.value).takeUp?_eq] at htake
    exact .inl ⟨rfl, (Option.some.inj htake).symm⟩
  | some field =>
    rw [(fieldReader_gives_field before hfield hmember.value).takeUp?_eq] at htake
    split at htake
    · contradiction
    · next hnew =>
      obtain ⟨value?, hvalue, rfl⟩ := Option.map_eq_some_iff.1 htake
      refine .inr ⟨field, value?, Field.eq_name_of_ofName? hfield, ?_, ?_, rfl⟩
      · exact Option.not_isSome_iff_eq_none.1 hnew
      · exact (nullableString_value?_eq_some_iff hmember.value).1 hvalue

/-- A member under a name that is no field's leaves everything as it is. -/
theorem member?_unknown {member : Member} (hmember : member.IsWritten) {key : String}
    (hname : SpellsString key member.name.form) (hkey : ∀ field : Field, key ≠ field.name)
    (before : Facts) : fieldReader.member? before member = some before := by
  have hfield : Field.ofName? key = none :=
    List.find?_eq_none.2 fun field _ => by simpa using (hkey field).symm
  rw [MemberReader.member?, (textOf?_eq_some_iff hmember.name).2 hname, Option.bind_some,
    (fieldReader_gives_unknown before hfield hmember.value).takeUp?_eq]

/-- A member under the name of a field gives the fact, and gives it first. -/
theorem member?_field {before after : Facts} {member : Member} (hmember : member.IsWritten)
    {field : Field} (hname : SpellsString field.name member.name.form)
    (h : fieldReader.member? before member = some after) :
    ∃ value?, before.lookup field = none ∧ SpellsNullable value? member.value.form ∧
      after = (field, value?) :: before := by
  obtain ⟨key, hkey, hcases⟩ := member?_cases hmember h
  obtain rfl := hname.unique hkey
  obtain ⟨hnone, -⟩ | ⟨found, value?, hfound, hnew, hvalue, hafter⟩ := hcases
  · rw [Field.ofName?_name] at hnone
    contradiction
  · obtain rfl : field = found := by
      rw [← Option.some.injEq, ← Field.ofName?_name, hfound, Field.ofName?_name]
    exact ⟨value?, hnew, hvalue, hafter⟩

/-- A fact that has been given stays. -/
theorem lookup_member? {before after : Facts} {member : Member} (hmember : member.IsWritten)
    (h : fieldReader.member? before member = some after) {field : Field} {value? : Option String}
    (hvalue : before.lookup field = some value?) : after.lookup field = some value? := by
  obtain ⟨key, -, ⟨-, rfl⟩ | ⟨found, _, -, hnew, -, rfl⟩⟩ := member?_cases hmember h
  · exact hvalue
  · have hne : field ≠ found := by
      rintro rfl
      rw [hnew] at hvalue
      contradiction
    rw [List.lookup_cons, beq_false_of_ne hne]
    exact hvalue

section Run

variable {before after : Facts} {members : List Member}
  (hmembers : ∀ member ∈ members, member.IsWritten)
  (h : members.foldlM fieldReader.member? before = some after)
include hmembers h

theorem lookup_foldlM {field : Field} {value? : Option String}
    (hvalue : before.lookup field = some value?) : after.lookup field = some value? := by
  induction members generalizing before with
  | nil =>
    cases h
    exact hvalue
  | cons member members ih =>
    obtain ⟨hmember, hmembers⟩ := List.forall_mem_cons.1 hmembers
    obtain ⟨between, hfirst, hothers⟩ := Option.bind_eq_some_iff.1 h
    exact ih hmembers hothers (lookup_member? hmember hfirst hvalue)

/-- A field that a member names has not been given before. -/
theorem lookup_eq_none_of_mem {member : Member} (hmem : member ∈ members) {field : Field}
    (hname : SpellsString field.name member.name.form) : before.lookup field = none := by
  induction members generalizing before with
  | nil => contradiction
  | cons first members ih =>
    obtain ⟨hfirst, hmembers⟩ := List.forall_mem_cons.1 hmembers
    obtain ⟨between, htake, hothers⟩ := Option.bind_eq_some_iff.1 h
    rcases List.mem_cons.1 hmem with rfl | hmem
    · obtain ⟨_, hnew, -⟩ := member?_field hfirst hname htake
      exact hnew
    · cases hvalue : before.lookup field with
      | none => rfl
      | some value? =>
        have hbetween := ih hmembers hothers hmem
        rw [lookup_member? hfirst htake hvalue] at hbetween
        contradiction

/-- A member under the name of a field gives what is known under it in the end. -/
theorem lookup_of_mem {member : Member} (hmem : member ∈ members) {field : Field}
    (hname : SpellsString field.name member.name.form) :
    ∃ value?, SpellsNullable value? member.value.form ∧ after.lookup field = some value? := by
  induction members generalizing before with
  | nil => contradiction
  | cons first members ih =>
    obtain ⟨hfirst, hwritten⟩ := List.forall_mem_cons.1 hmembers
    obtain ⟨between, htake, hothers⟩ := Option.bind_eq_some_iff.1 h
    rcases List.mem_cons.1 hmem with rfl | hmem
    · obtain ⟨value?, -, hvalue, rfl⟩ := member?_field hfirst hname htake
      exact ⟨value?, hvalue, lookup_foldlM hwritten hothers List.lookup_cons_self⟩
    · exact ih hwritten hothers hmem

/-- Of a field that no member names nothing more is known in the end. -/
theorem lookup_of_forall_not {field : Field}
    (hnot : ∀ member ∈ members, ¬SpellsString field.name member.name.form) :
    after.lookup field = before.lookup field := by
  induction members generalizing before with
  | nil =>
    cases h
    rfl
  | cons first members ih =>
    obtain ⟨hfirst, hmembers⟩ := List.forall_mem_cons.1 hmembers
    obtain ⟨hnotFirst, hnot⟩ := List.forall_mem_cons.1 hnot
    obtain ⟨between, htake, hothers⟩ := Option.bind_eq_some_iff.1 h
    rw [ih hmembers hothers hnot]
    obtain ⟨key, hkey, ⟨-, rfl⟩ | ⟨found, _, rfl, -, -, rfl⟩⟩ := member?_cases hfirst htake
    · rfl
    · have hne : field ≠ found := by
        rintro rfl
        exact hnotFirst hkey
      rw [List.lookup_cons, beq_false_of_ne hne]

end Run

/-! ## Items -/

/-- The facts that items give by their places, if there are no more of them than fields. -/
def takeItems? : List Field → List Spaced → Facts → Option Facts
  | _, [], before => some before
  | [], _ :: _, _ => none
  | field :: fields, item :: items, before =>
    (nullableString.value? item.form).bind fun value? =>
      takeItems? fields items ((field, value?) :: before)

/-- Items give facts if each is null or a text and there are no more of them than fields. -/
theorem takeItems?_eq_some_iff {fields : List Field} {items : List Spaced} {before facts : Facts} :
    takeItems? fields items before = some facts ↔
      items.length ≤ fields.length ∧
        ∃ values, items.mapM (fun item => nullableString.value? item.form) = some values ∧
          facts = (fields.zip values).reverse ++ before := by
  induction items generalizing fields before with
  | nil => simp [takeItems?, eq_comm]
  | cons item items ih =>
    cases fields with
    | nil => simp [takeItems?]
    | cons field fields =>
      rw [takeItems?, List.mapM_cons]
      cases nullableString.value? item.form with
      | none => simp
      | some value? =>
        rw [Option.bind_some, ih]
        cases items.mapM fun item => nullableString.value? item.form <;> simp

theorem toOption_readFacts_cons (before : Facts) (cs : List Char) (field : Field)
    (fields : List Field) :
    (readFacts before cs (field :: fields)).toOption =
      (nullableString.readItem before.isEmpty cs).toOption.bind fun
        | (none, rest) => some (before, rest)
        | (some value?, rest) => (readFacts ((field, value?) :: before) rest fields).toOption := by
  rw [readFacts]
  split <;> simp_all [Except.toOption]

/-- The items of a list are taken up by their places. An item too many is met where the end of the
list is asked for. -/
theorem toOption_readFacts {fields : List Field} {items : List Spaced}
    (hitems : ∀ item ∈ items, item.IsItem) {before : Facts} (hfields : before = [] → fields ≠ [])
    {spacing : List Char} (hspacing : IsSpacing spacing) (rest : List Char) :
    ((readFacts before (spacing ++ (remaining before.isEmpty (items.map Spaced.text) ++
        ']' :: rest)) fields).toOption.bind fun (facts, rest) =>
          (closeList rest).toOption.map (facts, ·)) =
      (takeItems? fields items before).map (·, rest) := by
  induction fields generalizing items before spacing with
  | nil =>
    obtain ⟨fact, before, rfl⟩ := List.exists_cons_of_ne_nil fun hempty => hfields hempty rfl
    change (closeList _).toOption.map _ = _
    cases items with
    | nil =>
      rw [List.map_nil, remaining_nil, List.nil_append, closeList_spacing hspacing]
      rfl
    | cons item items =>
      have hclose := toOption_closeList_comma hspacing
        (item.text ++ (followed (items.map Spaced.text) ++ ']' :: rest))
      simpa [remaining, followed, takeItems?] using hclose
  | cons field fields ih =>
    rw [toOption_readFacts_cons]
    cases items with
    | nil =>
      rw [List.map_nil, remaining_nil, List.nil_append, nullableString.readItem_close _ hspacing]
      rfl
    | cons item items =>
      obtain ⟨hitem, hitems⟩ := List.forall_mem_cons.1 hitems
      have hne : ∀ value?, (field, value?) :: before ≠ [] := fun value? => List.cons_ne_nil _ _
      rw [nullableString_isLocal.readItem _ hspacing hitem, takeItems?]
      cases nullableString.value? item.form with
      | none => rfl
      | some value? =>
        exact ih hitems (fun hempty => absurd hempty (hne value?)) hitem.spaced.behind

theorem toOption_readList (cs : List Char) :
    (readList cs).toOption =
      ((readFacts [] cs Field.all).toOption.bind fun (facts, rest) =>
        (closeList rest).toOption.map (facts, ·)).map fun (facts, rest) =>
          (ofFacts facts, rest) := by
  rw [readList]
  split
  · next hfacts =>
    rw [hfacts]
    rfl
  · next hfacts =>
    rw [hfacts, toOption_map, Except.toOption, Option.bind_some, Option.map_map]
    rfl

/-! ## Keywords -/

theorem reader_gives_object {spacing : List Char} (hspacing : IsSpacing spacing)
    {members : List Member} (hmembers : ∀ member ∈ members, member.IsWritten) :
    reader.Gives (objectText spacing members)
      ((members.foldlM fieldReader.member? []).map ofFacts) := by
  intro before rest hbefore _
  obtain ⟨inner, heq, hread⟩ := fieldReader_isLocal.object hspacing hmembers [] rest
  change (read _).toOption = _
  rw [read, heq, skipSpace_spacing_cons hbefore (by decide)]
  simp [readObject, toOption_map, hread, Function.comp_def]

theorem reader_gives_list {spacing : List Char} (hspacing : IsSpacing spacing)
    {items : List Spaced} (hitems : ∀ item ∈ items, item.IsItem) :
    reader.Gives (listText spacing items) ((takeItems? Field.all items []).map ofFacts) := by
  intro before rest hbefore _
  have hfields : ([] : Facts) = [] → Field.all ≠ [] := fun _ => List.cons_ne_nil _ _
  have hread := toOption_readFacts hitems hfields hspacing rest
  have heq : listText spacing items ++ rest = '[' :: (spacing ++
      (remaining ([] : Facts).isEmpty (items.map Spaced.text) ++ ']' :: rest)) := by
    simp [listText, remaining]
  change (read _).toOption = _
  rw [read, heq, skipSpace_spacing_cons hbefore (by decide)]
  change (readList _).toOption = _
  rw [toOption_readList, hread, Option.map_map, Option.map_map]
  rfl

theorem reader_gives_none {c : Char} {cs : List Char} (hspace : isSpace c = false)
    (hlist : c ≠ '[') (hobject : c ≠ '\x7b') : reader.Gives (c :: cs) none := by
  intro spacing rest hspacing _
  change (read _).toOption = none
  rw [read, List.cons_append, skipSpace_spacing_cons hspacing hspace]
  simp [hlist, hobject, Except.toOption]

theorem reader_isLocal : reader.IsLocal := by
  refine .of_gives fun form hform => ?_
  obtain ⟨spacing, members, hspacing, hmembers, rfl⟩ | ⟨spacing, items, hspacing, hitems, rfl⟩ |
      ⟨c, cs, rfl, hspace, hlist, hobject⟩ := hform.isObject_or_isList
  · exact ⟨_, reader_gives_object hspacing hmembers⟩
  · exact ⟨_, reader_gives_list hspacing hitems⟩
  · exact ⟨none, reader_gives_none hspace hlist hobject⟩

end Keyword

namespace Listing

theorem reader_isLocal : reader.IsLocal :=
  Reader.pairs_isLocal (Reader.pairs_isLocal Keyword.reader_isLocal)

end Listing

end UnitLint
