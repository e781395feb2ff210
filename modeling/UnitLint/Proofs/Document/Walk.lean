import UnitLint.Proofs.Document.Path
import UnitLint.Document.FileTree

/-!
# Where paths lead

A path leads from directory to directory, one part after the other. Something stands at a path if
there is a file or a directory at the end. Where a path does not lead to its end, either a name on
the way is not there, or something bars the way: a file where a directory is needed, or a name that
is too long to be looked up.
-/

namespace UnitLint.Document.FileTree

/-- Whether a walk can go on from where it is. -/
def IsDirectoryAt (tree : FileTree) (position : Position) : Prop :=
  ∃ entries, tree.seenFrom position = directory entries

/-- Where a part of a path leads from a directory. -/
inductive Enters : Position → String → Position → Prop
  | idle {position : Position} {part : String} (hidle : isIdle part) : Enters position part position
  | above {position} : Enters position ".." position.above
  | below {position part next} (hidle : isIdle part = false) (habove : part ≠ "..")
      (hlength : part.utf8ByteSize ≤ maxName) (hchild : position.child part = some next) :
      Enters position part next

/-- What keeps a part of a path from being looked up. -/
inductive Bars (tree : FileTree) (position : Position) (part : String) : ReadFault → Prop
  | file {bytes} (hfile : tree.seenFrom position = file bytes) :
      Bars tree position part .notADirectory
  | longName (hdirectory : tree.IsDirectoryAt position) (hidle : isIdle part = false)
      (habove : part ≠ "..") (hlength : maxName < part.utf8ByteSize) :
      Bars tree position part .nameTooLong

/-- Whether a part of a path is looked up in vain. -/
inductive Misses (tree : FileTree) (position : Position) (part : String) : Prop
  | nothing (hnothing : tree.seenFrom position = nothing)
  | outside (hdirectory : tree.IsDirectoryAt position) (hidle : isIdle part = false)
      (habove : part ≠ "..") (hlength : part.utf8ByteSize ≤ maxName)
      (hchild : position.child part = none)

/-- Where parts of a path lead, from directory to directory. -/
inductive Leads (tree : FileTree) : Position → List String → Position → Prop
  | here {position} : Leads tree position [] position
  | further {position part next rest target} (hdirectory : tree.IsDirectoryAt position)
      (henters : Enters position part next) (hrest : Leads tree next rest target) :
      Leads tree position (part :: rest) target

/-- Whether there is a file or a directory at a path. -/
def Exists (tree : FileTree) (path : String) : Prop :=
  ∃ target, tree.Leads (start path) (parts path) target ∧ tree.seenFrom target ≠ nothing

/-- What keeps a path from being followed to the place where it would tell whether something is
there. -/
inductive Obstructs (tree : FileTree) (path : String) : ReadFault → Prop
  | nul (hnul : '\x00' ∈ path.toList) : Obstructs tree path .nulInPath
  | length (hlength : maxPath < path.utf8ByteSize) : Obstructs tree path .nameTooLong
  /-- A part of the path that the parts before it lead up to cannot be looked up. -/
  | part {before part rest target fault} (hparts : parts path = before ++ part :: rest)
      (hleads : tree.Leads (start path) before target) (hbars : tree.Bars target part fault) :
      Obstructs tree path fault

variable {tree : FileTree} {position next target : Position} {part : String}
  {before rest : List String} {path : String} {fault : ReadFault}

/-! ## One part of a path -/

theorem not_isIdle_above : isIdle ".." = false := by decide

theorem walk_of_enters (hdirectory : tree.IsDirectoryAt position)
    (henters : Enters position part next) (rest : List String) :
    tree.walk position (part :: rest) = tree.walk next rest := by
  obtain ⟨entries, hdirectory⟩ := hdirectory
  rw [walk, hdirectory]
  cases henters with
  | idle hidle => simp only [hidle, if_true]
  | above => simp only [not_isIdle_above, Bool.false_eq_true, if_false, if_true]
  | below hidle habove hlength hchild =>
    simp only [hidle, habove, Nat.not_lt.2 hlength, hchild, Bool.false_eq_true, if_false]

theorem walk_of_bars (hbars : tree.Bars position part fault) (rest : List String) :
    tree.walk position (part :: rest) = .error fault := by
  rw [walk]
  cases hbars with
  | file hfile => rw [hfile]
  | longName hdirectory hidle habove hlength =>
    obtain ⟨entries, hdirectory⟩ := hdirectory
    simp only [hdirectory, hidle, habove, hlength, Bool.false_eq_true, if_false, if_true]

theorem walk_of_misses (hmisses : tree.Misses position part) (rest : List String) :
    tree.walk position (part :: rest) = .error .notFound := by
  rw [walk]
  cases hmisses with
  | nothing hnothing => rw [hnothing]
  | outside hdirectory hidle habove hlength hchild =>
    obtain ⟨entries, hdirectory⟩ := hdirectory
    simp only [hdirectory, hidle, habove, Nat.not_lt.2 hlength, hchild, Bool.false_eq_true,
      if_false]

/-- A part of a path leads on, is missed, or cannot be looked up. -/
theorem part_cases (tree : FileTree) (position : Position) (part : String) :
    (tree.IsDirectoryAt position ∧ ∃ next, Enters position part next) ∨
      tree.Misses position part ∨ ∃ fault, tree.Bars position part fault := by
  cases hseen : tree.seenFrom position with
  | nothing => exact .inr (.inl (.nothing hseen))
  | file bytes => exact .inr (.inr ⟨_, .file hseen⟩)
  | directory entries =>
    have hdirectory : tree.IsDirectoryAt position := ⟨entries, hseen⟩
    cases hidle : isIdle part with
    | true => exact .inl ⟨hdirectory, _, .idle hidle⟩
    | false =>
      by_cases habove : part = ".."
      · subst habove
        exact .inl ⟨hdirectory, _, .above⟩
      · by_cases hlength : part.utf8ByteSize ≤ maxName
        · cases hchild : position.child part with
          | some next => exact .inl ⟨hdirectory, next, .below hidle habove hlength hchild⟩
          | none => exact .inr (.inl (.outside hdirectory hidle habove hlength hchild))
        · exact .inr (.inr ⟨_, .longName hdirectory hidle habove (Nat.not_le.1 hlength)⟩)

/-! ## All parts of a path -/

/-- A walk goes on from where the parts behind it have led. -/
theorem Leads.walk_append (hleads : tree.Leads position before target) (rest : List String) :
    tree.walk position (before ++ rest) = tree.walk target rest := by
  induction hleads with
  | here => rfl
  | further hdirectory henters _ ih =>
    rw [List.cons_append, walk_of_enters hdirectory henters, ih]

/-- Parts of a path lead to an end, or up to the first part that does not lead on. -/
theorem leads_cases (tree : FileTree) (position : Position) (names : List String) :
    (∃ target, tree.Leads position names target) ∨
      ∃ before part rest target, names = before ++ part :: rest ∧
        tree.Leads position before target ∧
        (tree.Misses target part ∨ ∃ fault, tree.Bars target part fault) := by
  induction names generalizing position with
  | nil => exact .inl ⟨position, .here⟩
  | cons part rest ih =>
    rcases tree.part_cases position part with ⟨hdirectory, next, henters⟩ | hstops
    · rcases ih next with ⟨target, hleads⟩ | ⟨before, part', rest', target, rfl, hleads, hstops⟩
      · exact .inl ⟨target, .further hdirectory henters hleads⟩
      · exact .inr ⟨part :: before, part', rest', target, rfl,
          .further hdirectory henters hleads, hstops⟩
    · exact .inr ⟨[], part, rest, position, rfl, .here, hstops⟩

/-! ## Reading at a path -/

/-- What there is to be read where a walk has ended. -/
def content : FileTree → Except ReadFault ByteArray
  | nothing => .error .notFound
  | file bytes => .ok bytes
  | directory _ => .error .isADirectory

theorem read_eq_walk (hnul : '\x00' ∉ path.toList) (hlength : path.utf8ByteSize ≤ maxPath) :
    tree.read path = (tree.walk (start path) (parts path)).bind content := by
  rw [read, if_neg hnul, if_neg (Nat.not_lt.2 hlength)]
  cases tree.walk (start path) (parts path) with
  | error fault => rfl
  | ok seen => cases seen <;> rfl

theorem read_of_leads (hnul : '\x00' ∉ path.toList) (hlength : path.utf8ByteSize ≤ maxPath)
    (hleads : tree.Leads (start path) (parts path) target) :
    tree.read path = (tree.seenFrom target).content := by
  have hwalk := hleads.walk_append []
  rw [List.append_nil, walk] at hwalk
  rw [read_eq_walk hnul hlength, hwalk]
  rfl

theorem read_of_bars (hnul : '\x00' ∉ path.toList) (hlength : path.utf8ByteSize ≤ maxPath)
    (hparts : parts path = before ++ part :: rest) (hleads : tree.Leads (start path) before target)
    (hbars : tree.Bars target part fault) : tree.read path = .error fault := by
  rw [read_eq_walk hnul hlength, hparts, hleads.walk_append, walk_of_bars hbars]
  rfl

theorem read_of_misses (hnul : '\x00' ∉ path.toList) (hlength : path.utf8ByteSize ≤ maxPath)
    (hparts : parts path = before ++ part :: rest) (hleads : tree.Leads (start path) before target)
    (hmisses : tree.Misses target part) : tree.read path = .error .notFound := by
  rw [read_eq_walk hnul hlength, hparts, hleads.walk_append, walk_of_misses hmisses]
  rfl

theorem read_of_nul (hnul : '\x00' ∈ path.toList) : tree.read path = .error .nulInPath := by
  rw [read, if_pos hnul]

theorem read_of_length (hnul : '\x00' ∉ path.toList) (hlength : maxPath < path.utf8ByteSize) :
    tree.read path = .error .nameTooLong := by
  rw [read, if_neg hnul, if_pos hlength]

theorem Bars.ne_notFound (hbars : tree.Bars position part fault) : fault ≠ .notFound := by
  cases hbars <;> simp

/-! ## The answers of a store -/

/-- A store answers that there is nothing exactly if reading says so. -/
theorem store_eq_none_iff : tree.store path = .ok none ↔ tree.read path = .error .notFound := by
  rw [store]
  cases tree.read path with
  | error fault => cases fault <;> simp
  | ok bytes => simp

theorem store_of_read_error (hread : tree.read path = .error fault) (hne : fault ≠ .notFound) :
    tree.store path = .error fault := by
  rw [store, hread]
  cases fault with
  | notFound => contradiction
  | _ => rfl

/-- Something that exists is never answered with its absence. -/
theorem Exists.store_ne (hexists : tree.Exists path) : tree.store path ≠ .ok none := by
  obtain ⟨target, hleads, hne⟩ := hexists
  rw [Ne, store_eq_none_iff]
  by_cases hnul : '\x00' ∈ path.toList
  · simp [read_of_nul hnul]
  by_cases hlength : maxPath < path.utf8ByteSize
  · simp [read_of_length hnul hlength]
  rw [read_of_leads hnul (Nat.not_lt.1 hlength) hleads]
  cases hseen : tree.seenFrom target with
  | nothing => contradiction
  | file bytes => simp [content]
  | directory entries => simp [content]

/-- Nothing is said about the end of an obstructed path. -/
theorem Obstructs.store_ne (hobstructs : tree.Obstructs path fault) :
    tree.store path ≠ .ok none := by
  rw [Ne, store_eq_none_iff]
  by_cases hnul : '\x00' ∈ path.toList
  · simp [read_of_nul hnul]
  by_cases hlength : maxPath < path.utf8ByteSize
  · simp [read_of_length hnul hlength]
  cases hobstructs with
  | nul hnul' => contradiction
  | length hlength' => contradiction
  | part hparts hleads hbars =>
    rw [read_of_bars hnul (Nat.not_lt.1 hlength) hparts hleads hbars]
    exact fun h => hbars.ne_notFound (Except.error.inj h)

/-- Where nothing exists, the answer says so, unless the path is obstructed. -/
theorem store_of_not_exists (hmissing : ¬ tree.Exists path) :
    tree.store path = .ok none ∨
      ∃ fault, tree.store path = .error fault ∧ tree.Obstructs path fault := by
  by_cases hnul : '\x00' ∈ path.toList
  · exact .inr ⟨_, store_of_read_error (read_of_nul hnul) (by simp), .nul hnul⟩
  by_cases hlength : maxPath < path.utf8ByteSize
  · exact .inr ⟨_, store_of_read_error (read_of_length hnul hlength) (by simp), .length hlength⟩
  have hshort := Nat.not_lt.1 hlength
  rcases tree.leads_cases (start path) (parts path) with
    ⟨target, hleads⟩ | ⟨before, part, rest, target, hparts, hleads, hmisses | ⟨fault, hbars⟩⟩
  · have hnothing : tree.seenFrom target = nothing :=
      Classical.not_not.1 fun hne => hmissing ⟨target, hleads, hne⟩
    refine .inl (store_eq_none_iff.2 ?_)
    rw [read_of_leads hnul hshort hleads, hnothing]
    rfl
  · exact .inl (store_eq_none_iff.2 (read_of_misses hnul hshort hparts hleads hmisses))
  · exact .inr ⟨fault, store_of_read_error (read_of_bars hnul hshort hparts hleads hbars)
      hbars.ne_notFound, .part hparts hleads hbars⟩

end UnitLint.Document.FileTree
