import UnitLint.Proofs.Document.Blurb

/-!
# The files of a tree, listed

All files of a tree with their paths, as a list that can be kept in memory. A place is listed
exactly if a file is there and every name that leads to it is one that a file system can have. For
the description of a setting the list is as good as the tree.
-/

namespace UnitLint.Document

namespace FileTree

/-- A name that a file system can have. -/
def CanHold (name : String) : Prop :=
  isIdle name = false ∧ name ≠ ".." ∧ '/' ∉ name.toList ∧ '\x00' ∉ name.toList ∧
    name.utf8ByteSize ≤ maxName

instance : DecidablePred CanHold := fun _ => inferInstanceAs (Decidable (_ ∧ _))

theorem CanHold.isName {name : String} (h : CanHold name) : IsName name :=
  ⟨h.1, h.2.1, h.2.2.1⟩

mutual

/-- The files of a tree, each behind the row of names that leads to it. -/
def files : FileTree → List (List String × ByteArray)
  | nothing => []
  | file bytes => [([], bytes)]
  | directory entries => filesIn entries
termination_by structural tree => tree

/-- The files below the entries of a directory. An entry hides what later ones have under its
name. -/
def filesIn : List (String × FileTree) → List (List String × ByteArray)
  | [] => []
  | entry :: entries =>
    filesUnder entry ++ (filesIn entries).filter fun file => file.1.head? ≠ some entry.1
termination_by structural entries => entries

/-- The files below one entry. -/
def filesUnder : String × FileTree → List (List String × ByteArray)
  | (name, tree) =>
    if CanHold name then tree.files.map fun (place, bytes) => (name :: place, bytes) else []
termination_by structural entry => entry

end

/-- The files of a tree by their paths. -/
def documents (tree : FileTree) : List (String × Except ReadFault ByteArray) :=
  tree.files.map fun (place, bytes) => (pathOf place, .ok bytes)

variable {tree : FileTree} {entries : List (String × FileTree)} {name : String}
  {place : List String} {bytes : ByteArray}

/-! ## What is listed -/

theorem mem_filesUnder_iff {entry : String × FileTree} :
    (name :: place, bytes) ∈ filesUnder entry ↔
      entry.1 = name ∧ CanHold name ∧ (place, bytes) ∈ entry.2.files := by
  rw [filesUnder]
  split
  · next hname =>
    simp only [List.mem_map, Prod.mk.injEq, List.cons.injEq, Prod.exists]
    constructor
    · rintro ⟨place, bytes, hmem, ⟨rfl, rfl⟩, rfl⟩
      exact ⟨rfl, hname, hmem⟩
    · rintro ⟨rfl, -, hmem⟩
      exact ⟨place, bytes, hmem, ⟨rfl, rfl⟩, rfl⟩
  · next hname =>
    refine iff_of_false List.not_mem_nil ?_
    rintro ⟨rfl, hname', -⟩
    exact hname hname'

theorem nil_not_mem_filesIn : ([], bytes) ∉ filesIn entries := by
  induction entries with
  | nil => exact List.not_mem_nil
  | cons entry entries ih =>
    rw [filesIn, List.mem_append, List.mem_filter]
    rintro (hmem | ⟨hmem, -⟩)
    · rw [filesUnder] at hmem
      split at hmem
      · simp at hmem
      · contradiction
    · exact ih hmem

/-- Below the entries of a directory the first one of a name counts. -/
theorem mem_filesIn_iff :
    (name :: place, bytes) ∈ filesIn entries ↔
      CanHold name ∧ (place, bytes) ∈ ((entries.lookup name).getD nothing).files := by
  induction entries with
  | nil => simp [filesIn, files]
  | cons entry entries ih =>
    obtain ⟨first, tree⟩ := entry
    rw [filesIn, List.mem_append, List.mem_filter, mem_filesUnder_iff, ih, List.lookup_cons]
    by_cases hname : first = name
    · subst hname
      simp
    · have hbeq : (name == first) = false := beq_false_of_ne (Ne.symm hname)
      simp [hname, hbeq, Ne.symm hname]

/-- A place is listed exactly if a file is there, behind names that a file system can have. -/
theorem mem_files_iff :
    (place, bytes) ∈ tree.files ↔
      (∀ name ∈ place, CanHold name) ∧ tree.file? place = some bytes := by
  rw [file?_eq_some_iff]
  -- along the row of names: each name leads into one entry, so no induction over entries is needed
  induction place generalizing tree with
  | nil =>
    cases tree with
    | nothing => simp [files, node]
    | file other => simp [files, node, eq_comm]
    | directory entries => simp [files, node, nil_not_mem_filesIn]
  | cons name place ih =>
    cases tree with
    | nothing =>
      have hbelow : nothing.node (name :: place) = nothing := node_cons_of_child rfl
      simp [files, hbelow]
    | file other =>
      have hbelow : (file other).node (name :: place) = nothing := node_cons_of_child rfl
      simp [files, hbelow]
    | directory entries =>
      rw [files, mem_filesIn_iff, ih, List.forall_mem_cons, and_assoc]
      rfl

/-! ## Looking up what is listed -/

theorem mem_documents_iff {answer : Except ReadFault ByteArray}
    (hnames : ∀ name ∈ place, IsName name) :
    (pathOf place, answer) ∈ tree.documents ↔
      (∀ name ∈ place, CanHold name) ∧
        ∃ bytes, answer = .ok bytes ∧ tree.file? place = some bytes := by
  simp only [documents, List.mem_map, Prod.mk.injEq, Prod.exists]
  constructor
  · rintro ⟨place', bytes, hmem, hpath, rfl⟩
    obtain ⟨hnames', hfile⟩ := mem_files_iff.1 hmem
    obtain rfl := pathOf_injective (fun name hname => (hnames' name hname).isName) hnames hpath
    exact ⟨hnames', bytes, rfl, hfile⟩
  · rintro ⟨hnames', bytes, rfl, hfile⟩
    exact ⟨place, bytes, mem_files_iff.2 ⟨hnames', hfile⟩, rfl, rfl⟩

/-- The listed files answer at the end of a row of names as the tree does. -/
theorem ofList_documents_eq_some_iff (hnames : ∀ name ∈ place, IsName name) :
    Store.ofList tree.documents (pathOf place) = .ok (some bytes) ↔
      (∀ name ∈ place, CanHold name) ∧ tree.file? place = some bytes := by
  rw [Store.ofList]
  cases hlookup : tree.documents.lookup (pathOf place) with
  | none =>
    refine iff_of_false (by simp) ?_
    rintro ⟨hnames', hfile⟩
    have hmem := (mem_documents_iff hnames).2 ⟨hnames', bytes, rfl, hfile⟩
    simpa using List.lookup_eq_none_iff.1 hlookup _ hmem
  | some answer =>
    obtain ⟨before, after, hdocuments, -⟩ := List.lookup_eq_some_iff.1 hlookup
    have hmem : (pathOf place, answer) ∈ tree.documents := by
      rw [hdocuments]
      exact List.mem_append_right _ List.mem_cons_self
    obtain ⟨hnames', listed, rfl, hfile⟩ := (mem_documents_iff hnames).1 hmem
    rw [hfile, and_iff_right hnames']
    change Except.ok (some listed) = _ ↔ _
    rw [Except.ok.injEq]

end FileTree

/-- The files of a tree, kept in memory, give the same descriptions as the tree. -/
theorem value_blurb?_documents (tree : FileTree) (setting : Setting) :
    (blurb? (.ofList tree.documents) setting).value = (blurb? tree.store setting).value := by
  refine value_blurb?_congr fun hplain bytes => ?_
  rw [store_blurbPath_eq_some_iff hplain, blurbPath_eq_pathOf,
    FileTree.ofList_documents_eq_some_iff (isName_of_mem_blurbPlace hplain)]
  refine and_congr_left' (forall₂_congr fun name hname => ?_)
  have hname' := isName_of_mem_blurbPlace hplain name hname
  constructor
  · rintro ⟨-, -, -, -, hlength⟩
    exact hlength
  · intro hlength
    exact ⟨hname'.notIdle, hname'.notAbove, hname'.noSlash,
      nul_not_mem_of_mem_blurbPlace hplain name hname, hlength⟩

end UnitLint.Document
