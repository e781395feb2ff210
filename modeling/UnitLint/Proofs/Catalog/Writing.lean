import UnitLint.Proofs.Catalog.Spelling

/-!
# Written listings

The text that is written for a listing is one of its spellings, so that reading undoes writing. With
it every listing has a text.
-/

namespace UnitLint

open Json

namespace Listing

/-! ## Strings -/

theorem isHexDigit_digitChar {digit : Nat} (h : digit < 16) :
    IsHexDigit digit (Nat.digitChar digit) := by
  have hall : ∀ digit : Fin 16,
      "0123456789abcdef".toList[digit.val]? = some (Nat.digitChar digit) := by decide
  exact .inl (hall ⟨digit, h⟩)

/-- The four digits of a control character. -/
theorem spellsUnit_control {unit : Nat} (h : unit < 32) :
    SpellsUnit unit ['0', '0', Nat.digitChar (unit / 16), Nat.digitChar (unit % 16)] := by
  have hzero : unit / 0x1000 = 0 := by omega
  have hzero' : unit / 0x100 % 0x10 = 0 := by omega
  have htens : unit / 0x10 % 0x10 = unit / 16 := by omega
  refine .digits ?_ ?_ ?_ ?_
  · rw [hzero]
    exact isHexDigit_digitChar (by decide)
  · rw [hzero']
    exact isHexDigit_digitChar (by decide)
  · rw [htens]
    exact isHexDigit_digitChar (by omega)
  · exact isHexDigit_digitChar (Nat.mod_lt _ (by decide))

theorem encodeChar_spells (c : Char) : SpellsChar c (encodeChar c) := by
  rw [encodeChar]
  split
  · next h =>
    refine .short ?_
    rcases h with rfl | rfl <;> decide
  · next h =>
    rw [not_or] at h
    split
    · next hcontrol => exact .unit (spellsUnit_control hcontrol)
    · next hcontrol => exact .plain (by simp [isPlain, Char.not_lt.1 hcontrol, h])

theorem encodeString_spells (text : String) : SpellsString text (encodeString text) := by
  refine .quoted ?_
  induction text.toList with
  | nil => exact .nil
  | cons c cs ih => exact .cons (encodeChar_spells c) ih

theorem encodeNullable_spells (text? : Option String) :
    SpellsNullable text? (encodeNullable text?) := by
  cases text? with
  | none => exact .null
  | some text => exact .string (encodeString_spells text)

/-! ## Objects -/

theorem isSpacing_newLine (depth : Nat) : IsSpacing (newLine depth) := by
  intro c hc
  rcases List.mem_cons.1 hc with rfl | hc
  · decide
  · rw [List.eq_of_mem_replicate hc]
    decide

variable {α : Type} {spells : α → List Char → Prop} {encode : α → List Char}

theorem encodeMember_spells (h : ∀ value, spells value (encode value)) (depth : Nat)
    (member : String × α) {behind : List Char} (hbehind : IsSpacing behind) :
    SpellsMember spells member
      (newLine depth ++ encodeString member.1 ++ ([':', ' '] ++ encode member.2) ++ behind) :=
  .member (isSpacing_newLine depth) (encodeString_spells _)
    (.colon .nil (.cons (by decide) .nil) (h _))
    hbehind

/-- The induction is on the members; the blanks behind the last one belong to its spelling. -/
theorem encodeMembers_spells (h : ∀ value, spells value (encode value)) (depth : Nat)
    {members : List (String × α)} (hne : members ≠ []) {behind : List Char}
    (hbehind : IsSpacing behind) :
    SpellsMembers spells members (encodeMembers depth encode members ++ behind) := by
  induction members with
  | nil => contradiction
  | cons member members ih =>
    cases members with
    | nil =>
      have hmember := encodeMember_spells h depth member hbehind
      simpa [encodeMembers] using SpellsMembers.last hmember
    | cons next members =>
      have hmember := encodeMember_spells h depth member .nil
      simpa [encodeMembers] using SpellsMembers.cons hmember (ih (List.cons_ne_nil _ _))

theorem encodeObject_spells (h : ∀ value, spells value (encode value)) (depth : Nat)
    (members : List (String × α)) :
    SpellsObject spells members (encodeObject depth encode members) := by
  rw [encodeObject]
  by_cases hempty : members = []
  · subst hempty
    exact .empty .nil
  · rw [if_neg (by simpa using hempty)]
    exact .members (encodeMembers_spells h depth hempty (isSpacing_newLine _))

/-! ## Listings -/

theorem encodeFacts_spells (keyword : Keyword) :
    keyword.Spells (encodeObject 3 encodeNullable (factsOf keyword)) := by
  refine .object Keyword.Field.all (by decide) (fun field hnot => ?_)
    (encodeObject_spells encodeNullable_spells 3 _)
  cases field <;> exact absurd (by decide) hnot

/-- The text that is written for a listing stands for it. -/
theorem toText_spells (listing : Listing) : Spells listing (toText listing) := by
  refine .object .nil (encodeObject_spells (encodeObject_spells encodeFacts_spells 2) 1 listing)
    .nil ?_
  rw [toText, String.toList_ofList, List.nil_append, List.append_nil]
  rfl

/-- Reading undoes writing. -/
theorem ofText_toText (listing : Listing) : ofText (toText listing) = .ok listing :=
  ofText_eq_ok (toText_spells listing)

end Listing

end UnitLint
