import Mathlib.Order.Bounds.Defs
import UnitLint.Text.EditDistance

/-!
# Edits

A list turns into another by edits: an item is put in, taken out or replaced, one after the other
and anywhere. The edit distance of two lists is the least number of edits that lead from one to the
other.

The table behind the distance is filled from the front, prefix by prefix. Its meaning is told by a
recursion on the first items, so a prefix is kept with its last item first, and the distance is
that of the reversed lists.
-/

namespace UnitLint.Text

variable {α : Type}

/-- One edit of a list. -/
inductive Edit : List α → List α → Prop
  | insert (before : List α) (x : α) (after : List α) :
      Edit (before ++ after) (before ++ x :: after)
  | delete (before : List α) (x : α) (after : List α) :
      Edit (before ++ x :: after) (before ++ after)
  | substitute (before : List α) (x y : α) (after : List α) :
      Edit (before ++ x :: after) (before ++ y :: after)

/-- A number of edits, one after the other. -/
inductive Edits : Nat → List α → List α → Prop
  | none (xs : List α) : Edits 0 xs xs
  | one {n : Nat} {xs ys zs : List α} : Edit xs ys → Edits n ys zs → Edits (n + 1) xs zs

theorem Edit.cons {xs ys : List α} (h : Edit xs ys) (x : α) : Edit (x :: xs) (x :: ys) := by
  cases h with
  | insert before y after => exact .insert (x :: before) y after
  | delete before y after => exact .delete (x :: before) y after
  | substitute before y z after => exact .substitute (x :: before) y z after

theorem Edit.reverse {xs ys : List α} (h : Edit xs ys) : Edit xs.reverse ys.reverse := by
  cases h with
  | insert before y after =>
    simpa using Edit.insert after.reverse y before.reverse
  | delete before y after =>
    simpa using Edit.delete after.reverse y before.reverse
  | substitute before y z after =>
    simpa using Edit.substitute after.reverse y z before.reverse

theorem Edits.cons {n : Nat} {xs ys : List α} (h : Edits n xs ys) (x : α) :
    Edits n (x :: xs) (x :: ys) := by
  induction h with
  | none xs => exact .none (x :: xs)
  | one edit _ ih => exact .one (edit.cons x) ih

theorem Edits.reverse {n : Nat} {xs ys : List α} (h : Edits n xs ys) :
    Edits n xs.reverse ys.reverse := by
  induction h with
  | none xs => exact .none xs.reverse
  | one edit _ ih => exact .one edit.reverse ih

theorem edits_zero_iff {xs ys : List α} : Edits 0 xs ys ↔ xs = ys := by
  constructor
  · intro h
    cases h
    rfl
  · rintro rfl
    exact .none xs

theorem Edits.min {m n : Nat} {xs ys : List α} (hm : Edits m xs ys) (hn : Edits n xs ys) :
    Edits (min m n) xs ys := by
  rcases Nat.le_total m n with hle | hle
  · rwa [Nat.min_eq_left hle]
  · rwa [Nat.min_eq_right hle]

theorem edits_nil_left (ys : List α) : Edits ys.length [] ys := by
  induction ys with
  | nil => exact .none []
  | cons y ys ih => exact .one (.insert [] y []) (ih.cons y)

theorem edits_nil_right (xs : List α) : Edits xs.length xs [] := by
  induction xs with
  | nil => exact .none []
  | cons x xs ih => exact .one (.delete [] x xs) ih

variable [DecidableEq α]

/-! ## Counting from the first items -/

/-- The number of edits between two lists as told by their first items: one is put in, taken out or
replaced, or they agree. -/
def cost : List α → List α → Nat
  | [], ys => ys.length
  | x :: xs, [] => (x :: xs).length
  | x :: xs, y :: ys =>
    min (min (cost (x :: xs) ys + 1) (cost xs (y :: ys) + 1)) (cost xs ys + if x = y then 0 else 1)

@[simp] theorem cost_nil_left (ys : List α) : cost [] ys = ys.length := by
  rw [cost]

@[simp] theorem cost_nil_right (xs : List α) : cost xs [] = xs.length := by
  cases xs with
  | nil => rw [cost]
  | cons x xs => rw [cost]

theorem cost_cons_cons (x y : α) (xs ys : List α) :
    cost (x :: xs) (y :: ys) =
      min (min (cost (x :: xs) ys + 1) (cost xs (y :: ys) + 1))
        (cost xs ys + if x = y then 0 else 1) := by
  rw [cost]

/-- As many edits as are counted do lead from one list to the other. -/
theorem edits_cost (xs ys : List α) : Edits (cost xs ys) xs ys := by
  fun_induction cost xs ys with
  | case1 ys => exact edits_nil_left ys
  | case2 x xs => exact edits_nil_right (x :: xs)
  | case3 x xs y ys hleft hup hcorner =>
    refine .min (.min ?_ ?_) ?_
    · exact .one (.insert [] y (x :: xs)) (hleft.cons y)
    · exact .one (.delete [] x xs) hup
    · split
      · next heq =>
        subst heq
        exact hcorner.cons x
      · exact .one (.substitute [] x y xs) (hcorner.cons y)

/-! ## No fewer edits will do

One edit of the first list changes the count by one at most, wherever it is made. In front of the
place of the edit the two lists have the same items, so the recursion takes the same steps. -/

/-- Whether the second list is at most one edit closer to any list than the first is. -/
def Near (xs xs' : List α) : Prop :=
  ∀ ys, cost xs ys ≤ cost xs' ys + 1

theorem cost_cons_right_le (y : α) (xs ys : List α) : cost xs (y :: ys) ≤ cost xs ys + 1 := by
  cases xs with
  | nil => simp
  | cons x xs =>
    rw [cost_cons_cons]
    omega

theorem cost_cons_left_le (x : α) (xs ys : List α) : cost (x :: xs) ys ≤ cost xs ys + 1 := by
  cases ys with
  | nil => simp
  | cons y ys =>
    rw [cost_cons_cons]
    omega

theorem near_delete (x : α) (xs : List α) : Near (x :: xs) xs :=
  cost_cons_left_le x xs

theorem near_insert (x : α) (xs : List α) : Near xs (x :: xs) := by
  intro ys
  induction ys with
  | nil => simp; omega
  | cons y ys ih =>
    have hright := cost_cons_right_le y xs ys
    rw [cost_cons_cons]
    omega

theorem near_substitute (x y : α) (xs : List α) : Near (x :: xs) (y :: xs) := by
  intro ys
  induction ys with
  | nil => simp
  | cons z zs ih =>
    rw [cost_cons_cons, cost_cons_cons]
    have hx : (if x = z then 0 else 1) ≤ 1 := by split <;> omega
    omega

theorem Near.cons {xs xs' : List α} (h : Near xs xs') (x : α) : Near (x :: xs) (x :: xs') := by
  intro ys
  induction ys with
  | nil => simpa using h []
  | cons y ys ih =>
    have hup := h (y :: ys)
    have hcorner := h ys
    rw [cost_cons_cons, cost_cons_cons]
    omega

theorem Near.append {xs xs' : List α} (h : Near xs xs') (before : List α) :
    Near (before ++ xs) (before ++ xs') := by
  induction before with
  | nil => exact h
  | cons x before ih => exact ih.cons x

theorem Edit.near {xs xs' : List α} (h : Edit xs xs') : Near xs xs' := by
  cases h with
  | insert before x after => exact (near_insert x after).append before
  | delete before x after => exact (near_delete x after).append before
  | substitute before x y after => exact (near_substitute x y after).append before

theorem cost_self (xs : List α) : cost xs xs = 0 := by
  induction xs with
  | nil => simp
  | cons x xs ih =>
    rw [cost_cons_cons, ih, if_pos rfl]
    omega

theorem Edits.cost_le {n : Nat} {xs ys : List α} (h : Edits n xs ys) : cost xs ys ≤ n := by
  induction h with
  | none xs => exact Nat.le_of_eq (cost_self xs)
  | @one n xs ys zs edit _ ih =>
    have hnear := edit.near zs
    omega

/-! ## The table -/

/-- The row of the table for the items seen of the first list. It begins with the entry for what is
passed of the second list, and each further item adds an entry. -/
def row (seen passed : List α) : List α → List Nat
  | [] => [cost seen passed]
  | y :: ys => cost seen passed :: row seen (y :: passed) ys

theorem row_eq_cons (seen passed ys : List α) :
    row seen passed ys = cost seen passed :: (row seen passed ys).tail := by
  cases ys with
  | nil => rfl
  | cons y ys => rfl

/-- The first row counts the items of the second list. -/
theorem row_nil (passed ys : List α) :
    row [] passed ys = List.range' passed.length (ys.length + 1) := by
  induction ys generalizing passed with
  | nil => simp [row]
  | cons y ys ih =>
    rw [row, ih, cost_nil_left]
    exact List.range'_succ.symm

/-- Each entry of the next row follows from those on its left, above it and in the corner. -/
theorem nextRowFrom_row (x : α) (seen passed ys : List α) :
    nextRowFrom x (cost (x :: seen) passed) (cost seen passed) ys (row seen passed ys).tail =
      (row (x :: seen) passed ys).tail := by
  induction ys generalizing passed with
  | nil => rfl
  | cons y ys ih =>
    rw [row, row, List.tail_cons, List.tail_cons, row_eq_cons seen, nextRowFrom,
      ← cost_cons_cons, ih (y :: passed), ← row_eq_cons]

theorem nextRow_row (x : α) (seen ys : List α) :
    nextRow x ys (row seen [] ys) = row (x :: seen) [] ys := by
  have hcorner : cost (x :: seen) [] = cost seen [] + 1 := by
    rw [cost_nil_right, cost_nil_right, List.length_cons]
  rw [row_eq_cons seen, nextRow, ← hcorner, nextRowFrom_row, ← row_eq_cons]

theorem foldl_nextRow (xs seen ys : List α) :
    xs.foldl (fun row x => nextRow x ys row) (row seen [] ys) =
      row (xs.reverse ++ seen) [] ys := by
  induction xs generalizing seen with
  | nil => rfl
  | cons x xs ih =>
    rw [List.foldl_cons, nextRow_row, ih, List.reverse_cons, List.append_assoc,
      List.singleton_append]

theorem getLastD_row (seen passed ys : List α) :
    (row seen passed ys).getLastD 0 = cost seen (ys.reverse ++ passed) := by
  induction ys generalizing passed with
  | nil => rfl
  | cons y ys ih =>
    have hlast := ih (y :: passed)
    rw [row_eq_cons] at hlast
    rw [row, row_eq_cons, List.reverse_cons, List.append_assoc, List.singleton_append, ← hlast]
    rfl

theorem editDistance_eq_cost (xs ys : List α) :
    editDistance xs ys = cost xs.reverse ys.reverse := by
  have hfirst : List.range (ys.length + 1) = row [] [] ys := by
    rw [row_nil, List.range_eq_range', List.length_nil]
  rw [editDistance, hfirst, foldl_nextRow, getLastD_row, List.append_nil, List.append_nil]

/-- The edit distance is the least number of edits that turn one list into the other. -/
theorem isLeast_editDistance (xs ys : List α) :
    IsLeast {n | Edits n xs ys} (editDistance xs ys) := by
  rw [editDistance_eq_cost]
  constructor
  · show Edits (cost xs.reverse ys.reverse) xs ys
    simpa using (edits_cost xs.reverse ys.reverse).reverse
  · intro n hn
    exact hn.reverse.cost_le

/-- One item is taken out in front and one put in at the end, where four could be replaced. -/
example : editDistance "abcd".toList "bcde".toList = 2 := by decide

theorem editDistance_le_iff {xs ys : List α} {n : Nat} :
    editDistance xs ys ≤ n ↔ ∃ m ≤ n, Edits m xs ys := by
  obtain ⟨hedits, hleast⟩ := isLeast_editDistance xs ys
  constructor
  · intro hle
    exact ⟨editDistance xs ys, hle, hedits⟩
  · rintro ⟨m, hle, hm⟩
    exact Nat.le_trans (hleast hm) hle

end UnitLint.Text
