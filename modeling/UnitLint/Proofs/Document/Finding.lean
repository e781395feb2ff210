import Mathlib.Logic.ExistsUnique
import UnitLint.Proofs.Document.Listing
import UnitLint.Proofs.Document.Walk
import UnitLint.Proofs.Text.Utf8

/-!
# Texts directly below a directory

What comes of reading a text under a name can be told from what the directory has there. There are
several ways to fail, and a file whose bytes encode no text is one of them.
-/

namespace UnitLint.Document.FileTree

/-- What comes of reading a text under a name in a directory. -/
inductive Finds (tree : FileTree) (name : String) : Except ReadFault String → Prop
  | text {text : String} (hfile : tree.child name = file text.toUTF8) : Finds tree name (.ok text)
  | notUtf8 {bytes : ByteArray} (hfile : tree.child name = file bytes)
      (hbytes : ∀ text : String, bytes ≠ text.toUTF8) : Finds tree name (.error .notUtf8)
  | isADirectory {entries : List (String × FileTree)}
      (hdirectory : tree.child name = directory entries) : Finds tree name (.error .isADirectory)
  /-- Nothing is there. That may be so of the directory itself. -/
  | notFound (htree : ∀ bytes, tree ≠ file bytes) (hnothing : tree.child name = nothing) :
      Finds tree name (.error .notFound)
  /-- A file stands in the place of the directory. -/
  | notADirectory {bytes : ByteArray} (htree : tree = file bytes) :
      Finds tree name (.error .notADirectory)

variable {tree : FileTree} {name : String}

theorem Finds.unique {first second : Except ReadFault String} (hfirst : tree.Finds name first)
    (hsecond : tree.Finds name second) : first = second := by
  cases hfirst <;> cases hsecond <;>
    grind [child, String.toByteArray_inj, String.toUTF8_eq_toByteArray]

theorem read_name (hname : CanHold name) :
    tree.read name = (tree.walk (.inside []) [name]).bind content := by
  obtain ⟨-, -, hslash, hnul, hlength⟩ := id hname
  have hnames : ∀ part ∈ [name], IsName part := List.forall_mem_singleton.2 hname.isName
  have hpath : pathOf [name] = name := String.intercalate_singleton
  have hparts : parts (pathOf [name]) = [name] :=
    parts_pathOf (List.cons_ne_nil _ _) (List.forall_mem_singleton.2 hslash)
  have hstart : start (pathOf [name]) = .inside [] := start_pathOf hnames
  rw [hpath] at hparts hstart
  rw [read_eq_walk hnul (Nat.le_trans hlength (by decide)), hparts, hstart]

theorem read_name_file (hname : CanHold name) (bytes : ByteArray) :
    (file bytes).read name = .error .notADirectory := by
  rw [read_name hname]
  rfl

theorem read_name_of_ne_file (hname : CanHold name) (htree : ∀ bytes, tree ≠ file bytes) :
    tree.read name = (tree.child name).content := by
  rw [read_name hname]
  obtain ⟨hidle, habove, -, -, hlength⟩ := hname
  cases tree with
  | nothing => rfl
  | file bytes => exact absurd rfl (htree bytes)
  | directory entries =>
    simp [walk, seenFrom, node, hidle, habove, Nat.not_lt.2 hlength, Position.child, Except.bind]

/-- Reading a text comes to what is found under its name. -/
theorem finds_readText (hname : CanHold name) : tree.Finds name (tree.readText name) := by
  rw [readText]
  by_cases htree : ∃ bytes, tree = file bytes
  · obtain ⟨bytes, rfl⟩ := htree
    rw [read_name_file hname]
    exact .notADirectory rfl
  · rw [not_exists] at htree
    rw [read_name_of_ne_file hname htree]
    cases hchild : tree.child name with
    | nothing => exact .notFound htree hchild
    | directory entries => exact .isADirectory hchild
    | file bytes =>
      simp only [content]
      cases hdecode : Text.decode bytes with
      | ok text => exact .text (hchild.trans (congrArg file (Text.decode_eq_ok_iff.1 hdecode)))
      | error defect =>
        refine .notUtf8 hchild fun text hbytes => ?_
        rw [Text.decode_eq_ok_iff.2 hbytes] at hdecode
        contradiction

theorem existsUnique_finds (hname : CanHold name) : ∃! result, tree.Finds name result :=
  ⟨_, finds_readText hname, fun _ hfinds => hfinds.unique (finds_readText hname)⟩

/-- Reading a text under a name gives what is found there, and nothing else. -/
theorem readText_eq_iff (hname : CanHold name) {result : Except ReadFault String} :
    tree.readText name = result ↔ tree.Finds name result := by
  constructor
  · rintro rfl
    exact finds_readText hname
  · intro hfinds
    exact (finds_readText hname).unique hfinds

end UnitLint.Document.FileTree
