import UnitLint.Proofs.Document.Path
import UnitLint.Document.FileTree

/-!
# Files at the end of a row of names

A path along a row of names goes down from directory to directory and nowhere else. Reading along
it gives the file at the end of the row, and neither what lies beside the row nor what lies above it
has a part in that.
-/

namespace UnitLint.Document

/-- A path along names begins inside. -/
theorem start_pathOf {place : List String} (hnames : ∀ name ∈ place, IsName name) :
    FileTree.start (pathOf place) = .inside [] := by
  rw [FileTree.start, if_neg]
  cases place with
  | nil => decide
  | cons name rest =>
    obtain ⟨hidle, -, hslash⟩ := hnames name List.mem_cons_self
    have hne : name ≠ "" := by
      rintro rfl
      exact absurd hidle (by decide)
    obtain ⟨c, cs, hname⟩ := List.exists_cons_of_ne_nil (mt String.toList_eq_nil_iff.1 hne)
    have hhead : (pathOf (name :: rest)).toList.head? = some c := by
      rw [toList_pathOf]
      cases rest <;> simp [hname, List.intercalate]
    rw [hhead, Option.some.injEq]
    rintro rfl
    exact hslash (by rw [hname]; exact List.mem_cons_self)

namespace FileTree

variable {tree : FileTree} {place names : List String} {bytes : ByteArray}

/-- The file at the end of a row of names. -/
def file? (tree : FileTree) (place : List String) : Option ByteArray :=
  match tree.node place with
  | file bytes => some bytes
  | nothing | directory _ => none

theorem file?_eq_some_iff : tree.file? place = some bytes ↔ tree.node place = file bytes := by
  rw [file?]
  cases tree.node place <;> simp

theorem node_append (tree : FileTree) (place names : List String) :
    tree.node (place ++ names) = (tree.node place).node names :=
  List.foldl_append

/-- Nothing is below a place with nothing or a file. -/
theorem node_cons_of_child {name : String} (hchild : tree.child name = nothing) :
    tree.node (name :: names) = nothing := by
  have hnothing : ∀ names, nothing.node names = nothing := by
    intro names
    induction names with
    | nil => rfl
    | cons name names ih => exact ih
  change (tree.child name).node names = nothing
  rw [hchild, hnothing]

/-- A walk along names ends at a file exactly if the file is there and no name is too long. -/
theorem walk_eq_ok_file_iff (hnames : ∀ name ∈ names, IsName name) :
    tree.walk (.inside place) names = .ok (file bytes) ↔
      (∀ name ∈ names, name.utf8ByteSize ≤ maxName) ∧ tree.node (place ++ names) = file bytes := by
  induction names generalizing place with
  | nil => simp [walk, seenFrom]
  | cons name rest ih =>
    obtain ⟨hname, hrest⟩ := List.forall_mem_cons.1 hnames
    rw [walk, seenFrom, node_append]
    cases hseen : tree.node place with
    | nothing =>
      have hbelow : nothing.node (name :: rest) = nothing := node_cons_of_child rfl
      simp [hbelow]
    | file other =>
      have hbelow : (file other).node (name :: rest) = nothing := node_cons_of_child rfl
      simp [hbelow]
    | directory entries =>
      have hbelow : tree.node (place ++ [name] ++ rest) =
          (directory entries).node (name :: rest) := by
        rw [List.append_assoc, node_append, hseen]
        rfl
      simp only [hname.notIdle, hname.notAbove, Bool.false_eq_true, if_false, Position.child]
      by_cases hlength : maxName < name.utf8ByteSize
      · rw [if_pos hlength]
        refine iff_of_false (by simp) fun h => ?_
        exact absurd (h.1 name List.mem_cons_self) (Nat.not_le.2 hlength)
      · rw [if_neg hlength, ih hrest, hbelow, List.forall_mem_cons,
          and_iff_right (Nat.not_lt.1 hlength)]

theorem store_eq_some_iff {path : String} :
    tree.store path = .ok (some bytes) ↔ tree.read path = .ok bytes := by
  rw [store]
  cases tree.read path with
  | error fault => cases fault <;> simp
  | ok bytes => simp

/-- A store gives the file at the end of a row of names, unless a name or the path is one that no
file can have. -/
theorem store_pathOf_eq_some_iff (hne : place ≠ []) (hnames : ∀ name ∈ place, IsName name) :
    tree.store (pathOf place) = .ok (some bytes) ↔
      '\x00' ∉ (pathOf place).toList ∧ (pathOf place).utf8ByteSize ≤ maxPath ∧
        (∀ name ∈ place, name.utf8ByteSize ≤ maxName) ∧ tree.file? place = some bytes := by
  have hparts : parts (pathOf place) = place :=
    parts_pathOf hne fun name hname => (hnames name hname).noSlash
  rw [store_eq_some_iff, read, start_pathOf hnames, hparts, file?_eq_some_iff]
  by_cases hnul : '\x00' ∈ (pathOf place).toList
  · simp [hnul]
  by_cases hlength : maxPath < (pathOf place).utf8ByteSize
  · simp [hnul, hlength, Nat.not_le.2 hlength]
  have hwalk : tree.walk (.inside []) place = .ok (file bytes) ↔ _ := walk_eq_ok_file_iff hnames
  rw [List.nil_append] at hwalk
  rw [if_neg hnul, if_neg hlength, ← hwalk, and_iff_right hnul,
    and_iff_right (Nat.not_lt.1 hlength)]
  cases tree.walk (.inside []) place with
  | error fault => simp
  | ok seen => cases seen <;> simp

end FileTree

end UnitLint.Document
