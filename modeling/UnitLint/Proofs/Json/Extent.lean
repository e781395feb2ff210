import UnitLint.Json.Item
import UnitLint.Proofs.Json.Objects
import UnitLint.Proofs.Json.Skipping

/-!
# What readers take

A reader that takes something off a text takes a value of the grammar with the white space in front
of it. So the texts that can be read are found among the values, and to know what a reader does it
is enough to know what it does with values.
-/

namespace UnitLint.Json

variable {α σ : Type}

/-- What a reader takes is a value behind white space. -/
def Reader.TakesValues (reader : Reader α) : Prop :=
  ∀ ⦃cs value rest⦄, reader.read cs = .ok (value, rest) →
    ∃ spacing form, IsSpacing spacing ∧ IsValue form ∧ cs = spacing ++ (form ++ rest)

/-- What is taken behind the key of a member is a value behind a colon. -/
def MemberReader.TakesValues (reader : MemberReader σ) : Prop :=
  ∀ ⦃before key cs after rest⦄, reader.read before key cs = .ok (after, rest) →
    ∃ behind spacing form, IsSpacing behind ∧ IsSpacing spacing ∧ IsValue form ∧
      cs = behind ++ ':' :: (spacing ++ (form ++ rest))

/-! ## Strings that may be absent -/

theorem eq_append_of_readNullableString {cs rest : List Char} {text? : Option String}
    (h : readNullableString cs = .ok (text?, rest)) :
    ∃ spacing form, IsSpacing spacing ∧ SpellsNullable text? form ∧
      cs = spacing ++ (form ++ rest) := by
  rw [readNullableString] at h
  split at h
  · contradiction
  · next heq =>
    obtain ⟨spacing, hspacing, rfl⟩ := exists_spacing_of_eq heq
    split at h
    · next hnull =>
      obtain ⟨after, hword, heq⟩ := exists_of_map_eq_ok h
      cases heq
      obtain rfl := skipWord_eq_ok_iff.1 hword
      exact ⟨spacing, _, hspacing, .null, by simp [hnull]⟩
    · split at h
      · next hquote =>
        obtain ⟨⟨text, after⟩, hstring, heq⟩ := exists_of_map_eq_ok h
        cases heq
        obtain ⟨forms, hforms, rfl⟩ := eq_append_of_readString hstring
        exact ⟨spacing, _, hspacing, .string (.quoted hforms), by simp [hquote]⟩
      · contradiction

theorem SpellsNullable.isValue {text? : Option String} {form : List Char}
    (h : SpellsNullable text? form) : IsValue form := by
  cases h with
  | null => exact .null
  | string hform => exact .string hform.isQuoted

theorem nullableString_takesValues : nullableString.TakesValues := by
  intro cs text? rest h
  obtain ⟨spacing, form, hspacing, hform, heq⟩ := eq_append_of_readNullableString h
  exact ⟨spacing, form, hspacing, hform.isValue, heq⟩

/-! ## Members -/

/-- Texts that are still to come in a row: a comma stands between any two of them, and in front of
the first one unless the row begins with it. -/
def remaining (isFirst : Bool) (texts : List (List Char)) : List Char :=
  if isFirst then separated texts else followed texts

theorem remaining_nil (isFirst : Bool) : remaining isFirst [] = [] := by
  cases isFirst <;> rfl

theorem eq_append_of_readKey {cs rest : List Char} {key? : Option String}
    (h : readKey cs = .ok (key?, rest)) :
    ∃ key name, key? = some key ∧ SpellsString key name ∧ cs = name ++ rest := by
  unfold readKey at h
  split at h
  · obtain ⟨⟨key, after⟩, hstring, heq⟩ := exists_of_map_eq_ok h
    cases heq
    obtain ⟨forms, hforms, rfl⟩ := eq_append_of_readString hstring
    exact ⟨key, _, rfl, .quoted hforms, by simp⟩
  · contradiction

theorem eq_append_of_nextKey_none {isFirst : Bool} {cs rest : List Char}
    (h : nextKey isFirst cs = .ok (none, rest)) :
    ∃ spacing, IsSpacing spacing ∧ cs = spacing ++ '\x7d' :: rest := by
  have hkey : ∀ cs, readKey cs ≠ .ok (none, rest) := by
    intro cs hread
    obtain ⟨_, _, hsome, _⟩ := eq_append_of_readKey hread
    contradiction
  rw [nextKey] at h
  split at h
  · contradiction
  · next heq =>
    split at h
    · next hclose =>
      cases h
      exact exists_spacing_of_eq (hclose ▸ heq)
    · split at h
      · exact absurd h (hkey _)
      · split at h
        · split at h
          · contradiction
          · split at h
            · contradiction
            · exact absurd h (hkey _)
        · contradiction

theorem eq_append_of_nextKey_some {isFirst : Bool} {cs rest : List Char} {key : String}
    (h : nextKey isFirst cs = .ok (some key, rest)) :
    ∃ opening before name, SpellsOpening isFirst opening ∧ IsSpacing before ∧
      SpellsString key name ∧ cs = opening ++ (before ++ (name ++ rest)) := by
  rw [nextKey] at h
  split at h
  · contradiction
  · next heq =>
    obtain ⟨spacing, hspacing, rfl⟩ := exists_spacing_of_eq heq
    split at h
    · cases h
    · split at h
      · next hfirst =>
        obtain ⟨_, name, hkey, hname, heq⟩ := eq_append_of_readKey h
        cases hkey
        rw [hfirst, heq]
        exact ⟨[], spacing, name, .first, hspacing, hname, rfl⟩
      · next hnotFirst =>
        split at h
        · next hcomma =>
          split at h
          · contradiction
          · next heq' =>
            obtain ⟨before, hbefore, rfl⟩ := exists_spacing_of_eq heq'
            split at h
            · contradiction
            · obtain ⟨_, name, hkey, hname, heq⟩ := eq_append_of_readKey h
              cases hkey
              rw [Bool.eq_false_of_not_eq_true hnotFirst, hcomma, heq]
              exact ⟨spacing ++ [','], before, name, .comma hspacing, hbefore, hname, by simp⟩
        · contradiction

/-- Behind what stands in front of a member, the member and all that follow it remain. -/
theorem exists_remaining {isFirst : Bool} {opening : List Char}
    (h : SpellsOpening isFirst opening) (text : List Char) (texts : List (List Char)) :
    ∃ spacing, IsSpacing spacing ∧
      opening ++ (text ++ followed texts) = spacing ++ remaining isFirst (text :: texts) := by
  cases h with
  | first => exact ⟨[], .nil, rfl⟩
  | @comma spacing hspacing =>
    refine ⟨spacing, hspacing, ?_⟩
    simp [remaining, followed]

/-- What is read as members are members, up to and with the closing mark. -/
theorem MemberReader.TakesValues.readMembers {reader : MemberReader σ}
    (hreader : reader.TakesValues) {isFirst : Bool} {before after : σ} {cs rest : List Char}
    (h : readMembers reader isFirst before cs = .ok (after, rest)) :
    ∃ (spacing : List Char) (members : List Member), IsSpacing spacing ∧
      (∀ member ∈ members, member.IsWritten) ∧
      cs = spacing ++ (remaining isFirst (members.map Member.text) ++ '\x7d' :: rest) := by
  fun_induction Json.readMembers reader isFirst before cs with
  | case1 => contradiction
  | case2 isFirst _ _ _ hkey =>
    cases h
    obtain ⟨spacing, hspacing, rfl⟩ := eq_append_of_nextKey_none hkey
    refine ⟨spacing, [], hspacing, by simp, ?_⟩
    rw [List.map_nil, remaining_nil, List.nil_append]
  | case3 => contradiction
  | case4 isFirst before cs key rest hkey after rest' hread ih =>
    obtain ⟨valueBehind, members, hvalueBehind, hmembers, rfl⟩ := ih h
    obtain ⟨nameBehind, valueBefore, form, hnameBehind, hvalueBefore, hform, rfl⟩ :=
      hreader hread
    obtain ⟨opening, nameBefore, name, hopening, hnameBefore, hname, rfl⟩ :=
      eq_append_of_nextKey_some hkey
    have hmember : Member.IsWritten
        ⟨⟨nameBefore, name, nameBehind⟩, ⟨valueBefore, form, valueBehind⟩⟩ :=
      ⟨⟨⟨hnameBefore, hnameBehind⟩, ⟨hvalueBefore, hvalueBehind⟩⟩, hname.isQuoted, hform⟩
    obtain ⟨spacing, hspacing, heq⟩ := exists_remaining hopening
      (Member.text ⟨⟨nameBefore, name, nameBehind⟩, ⟨valueBefore, form, valueBehind⟩⟩)
      (members.map Member.text)
    refine ⟨spacing, _ :: members, hspacing, List.forall_mem_cons.2 ⟨hmember, hmembers⟩, ?_⟩
    rw [List.map_cons, ← List.append_assoc spacing, ← heq]
    simp [Member.text, Spaced.text, remaining]

/-- Behind its opening, an object is what the reading of its members takes. -/
theorem MemberReader.TakesValues.object {reader : MemberReader σ} (hreader : reader.TakesValues)
    {before after : σ} {cs rest : List Char}
    (h : Json.readMembers reader true before cs = .ok (after, rest)) :
    ∃ (spacing : List Char) (members : List Member), IsSpacing spacing ∧
      (∀ member ∈ members, member.IsWritten) ∧
      '\x7b' :: cs = objectText spacing members ++ rest := by
  obtain ⟨spacing, members, hspacing, hmembers, rfl⟩ := hreader.readMembers h
  exact ⟨spacing, members, hspacing, hmembers, by simp [objectText, remaining]⟩

theorem Reader.TakesValues.readBehindColon {item : Reader α} (hitem : item.TakesValues)
    {cs rest : List Char} {value : α} (h : item.readBehindColon cs = .ok (value, rest)) :
    ∃ behind spacing form, IsSpacing behind ∧ IsSpacing spacing ∧ IsValue form ∧
      cs = behind ++ ':' :: (spacing ++ (form ++ rest)) := by
  rw [Reader.readBehindColon] at h
  split at h
  · contradiction
  · next hcolon =>
    obtain ⟨behind, hbehind, rfl⟩ := eq_append_of_skipColon hcolon
    obtain ⟨spacing, form, hspacing, hform, rfl⟩ := hitem h
    exact ⟨behind, spacing, form, hbehind, hspacing, hform, rfl⟩

theorem Reader.TakesValues.pair {item : Reader α} (hitem : item.TakesValues) :
    item.pair.TakesValues := by
  intro before key cs after rest h
  obtain ⟨⟨value, _⟩, hvalue, heq⟩ := exists_of_map_eq_ok h
  cases heq
  exact hitem.readBehindColon hvalue

/-! ## Objects -/

/-- What is read as pairs is an object. -/
theorem Reader.TakesValues.readPairs {item : Reader α} (hitem : item.TakesValues)
    {cs rest : List Char} {pairs : List (String × α)} (h : item.readPairs cs = .ok (pairs, rest)) :
    ∃ (before spacing : List Char) (members : List Member), IsSpacing before ∧ IsSpacing spacing ∧
      (∀ member ∈ members, member.IsWritten) ∧
      cs = before ++ (objectText spacing members ++ rest) := by
  rw [Reader.readPairs] at h
  split at h
  · contradiction
  · next heq =>
    obtain ⟨before, hbefore, rfl⟩ := exists_spacing_of_eq heq
    split at h
    · next hopen =>
      obtain ⟨⟨_, _⟩, hmembers, heq⟩ := exists_of_map_eq_ok h
      cases heq
      obtain ⟨spacing, members, hspacing, hmembers, heq⟩ := hitem.pair.object hmembers
      exact ⟨before, spacing, members, hbefore, hspacing, hmembers, by rw [hopen, heq]⟩
    · contradiction

theorem Reader.TakesValues.pairs {item : Reader α} (hitem : item.TakesValues) :
    item.pairs.TakesValues := by
  intro cs pairs rest h
  obtain ⟨before, spacing, members, hbefore, hspacing, hmembers, heq⟩ := hitem.readPairs h
  exact ⟨before, _, hbefore, .of_members hspacing hmembers, heq⟩

/-! ## Items -/

/-- Where no item comes, the end of the list does. -/
theorem eq_append_of_nextItem_false {isFirst : Bool} {cs rest : List Char}
    (h : nextItem isFirst cs = .ok (false, rest)) :
    ∃ spacing behind, IsSpacing spacing ∧ rest = ']' :: behind ∧ cs = spacing ++ rest := by
  rw [nextItem] at h
  split at h
  · contradiction
  · next heq =>
    split at h
    · next hclose =>
      cases h
      obtain ⟨spacing, hspacing, rfl⟩ := exists_spacing_of_eq heq
      exact ⟨spacing, _, hspacing, by rw [hclose], rfl⟩
    · split at h
      · cases h
      · split at h
        · split at h
          · contradiction
          · split at h
            · contradiction
            · cases h
        · contradiction

theorem eq_append_of_nextItem_true {isFirst : Bool} {cs rest : List Char}
    (h : nextItem isFirst cs = .ok (true, rest)) :
    ∃ opening before, SpellsOpening isFirst opening ∧ IsSpacing before ∧
      cs = opening ++ (before ++ rest) := by
  rw [nextItem] at h
  split at h
  · contradiction
  · next heq =>
    obtain ⟨spacing, hspacing, rfl⟩ := exists_spacing_of_eq heq
    split at h
    · cases h
    · split at h
      · next hfirst =>
        cases h
        rw [hfirst]
        exact ⟨[], spacing, .first, hspacing, rfl⟩
      · next hnotFirst =>
        split at h
        · next hcomma =>
          split at h
          · contradiction
          · next heq' =>
            split at h
            · contradiction
            · cases h
              obtain ⟨before, hbefore, rfl⟩ := exists_spacing_of_eq heq'
              rw [Bool.eq_false_of_not_eq_true hnotFirst, hcomma]
              exact ⟨spacing ++ [','], before, .comma hspacing, hbefore, by simp⟩
        · contradiction

theorem closeList_bracket (rest : List Char) : closeList (']' :: rest) = .ok rest := rfl

theorem closeList_spacing {spacing : List Char} (h : IsSpacing spacing) (rest : List Char) :
    closeList (spacing ++ ']' :: rest) = .ok rest := by
  rw [closeList, skipSpace_spacing_cons h (by decide)]
  rfl

theorem eq_append_of_closeList {cs rest : List Char} (h : closeList cs = .ok rest) :
    ∃ spacing, IsSpacing spacing ∧ cs = spacing ++ ']' :: rest := by
  rw [closeList] at h
  split at h
  · contradiction
  · next heq =>
    split at h
    · next hclose =>
      cases h
      exact exists_spacing_of_eq (hclose ▸ heq)
    · split at h
      · split at h <;> contradiction
      · contradiction

/-- An item that is read is a value behind what may stand in front of it. -/
theorem Reader.TakesValues.readItem {item : Reader α} (hitem : item.TakesValues) {isFirst : Bool}
    {cs rest : List Char} {value : α} (h : item.readItem isFirst cs = .ok (some value, rest)) :
    ∃ opening before form, SpellsOpening isFirst opening ∧ IsSpacing before ∧ IsValue form ∧
      cs = opening ++ (before ++ (form ++ rest)) := by
  rw [Reader.readItem] at h
  split at h
  · contradiction
  · cases h
  · next hnext =>
    obtain ⟨⟨_, _⟩, hvalue, heq⟩ := exists_of_map_eq_ok h
    cases heq
    obtain ⟨spacing, form, hspacing, hform, rfl⟩ := hitem hvalue
    obtain ⟨opening, before, hopening, hbefore, rfl⟩ := eq_append_of_nextItem_true hnext
    exact ⟨opening, before ++ spacing, form, hopening, hbefore.append hspacing, hform, by simp⟩

/-- Where no item is read, the end of the list comes next. -/
theorem Reader.eq_append_of_readItem_none {item : Reader α} {isFirst : Bool} {cs rest : List Char}
    (h : item.readItem isFirst cs = .ok (none, rest)) :
    ∃ spacing behind, IsSpacing spacing ∧ rest = ']' :: behind ∧ cs = spacing ++ rest := by
  rw [Reader.readItem] at h
  split at h
  · contradiction
  · next hnext =>
    cases h
    exact eq_append_of_nextItem_false hnext
  · obtain ⟨⟨_, _⟩, _, heq⟩ := exists_of_map_eq_ok h
    cases heq

end UnitLint.Json
