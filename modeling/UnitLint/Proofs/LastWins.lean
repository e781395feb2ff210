import Mathlib.Data.List.Induction

/-!
# The last one counts

Records and catalogs may name the same thing several times, and then what is said last holds. The
rule is stated once here, for items of any kind: an item is the last one of its kind in a list if
no item behind it is of that kind.
-/

namespace UnitLint

variable {α : Type} {kind : α → Prop}

/-- An item is the last of its kind in a list. -/
def IsLast (kind : α → Prop) (items : List α) (item : α) : Prop :=
  ∃ before after, items = before ++ item :: after ∧ kind item ∧ ∀ later ∈ after, ¬kind later

namespace IsLast

theorem holds {items : List α} {item : α} (h : IsLast kind items item) : kind item := by
  obtain ⟨_, _, _, hitem, _⟩ := h
  exact hitem

theorem mem {items : List α} {item : α} (h : IsLast kind items item) : item ∈ items := by
  obtain ⟨before, after, rfl, _, _⟩ := h
  simp

/-- Searching from the end of a list finds the last item of a kind. -/
theorem iff_find?_reverse [DecidablePred kind] {items : List α} {item : α} :
    IsLast kind items item ↔ items.reverse.find? kind = some item := by
  rw [List.find?_eq_some_iff_append]
  constructor
  · rintro ⟨before, after, rfl, hitem, hlater⟩
    refine ⟨by simpa using hitem, after.reverse, before.reverse, by simp, ?_⟩
    intro later hmem
    simpa using hlater later (List.mem_reverse.1 hmem)
  · rintro ⟨hitem, before, after, heq, hlater⟩
    refine ⟨after.reverse, before.reverse, ?_, by simpa using hitem, ?_⟩
    · simpa using congrArg List.reverse heq
    · intro later hmem
      simpa using hlater later (List.mem_reverse.1 hmem)

theorem unique {items : List α} {first second : α} (hfirst : IsLast kind items first)
    (hsecond : IsLast kind items second) : first = second := by
  classical
  rw [iff_find?_reverse] at hfirst hsecond
  exact Option.some.inj (hfirst.symm.trans hsecond)

/-- Looking up what the last item of a kind says, where the items of the kind differ in nothing
else. -/
theorem map_find?_reverse_eq_some_iff {β : Type} [DecidablePred kind] {content : α → β}
    {make : β → α} (hcontent : ∀ value, content (make value) = value)
    (hmake : ∀ item, kind item → item = make (content item)) {items : List α} {value : β} :
    (items.reverse.find? kind).map content = some value ↔ IsLast kind items (make value) := by
  rw [iff_find?_reverse, Option.map_eq_some_iff]
  constructor
  · rintro ⟨item, hfind, rfl⟩
    have hitem : kind item := by simpa using List.find?_some hfind
    rwa [← hmake item hitem]
  · intro hfind
    exact ⟨_, hfind, hcontent value⟩

end IsLast

end UnitLint
