import UnitLint.Proofs.Document.Path
import UnitLint.Document.FileTree

/-!
# Components of paths

Paths are compared by their components, so that many of them come to the same. How many slashes
there are in a row does not count, nor do single dots between slashes or at the end, but a slash or
a dot in front is a component of its own. Two dots are a name. The paths along a row of names can be
told without taking them apart: the first name comes first, and behind each slash stands one of the
others, or a single dot, or nothing.
-/

namespace UnitLint.Document

/-- A component of a path. -/
inductive Component where
  /-- A slash in front. -/
  | root
  /-- A single dot in front. -/
  | here
  /-- Anything else, two dots included. -/
  | name (text : String)
  deriving DecidableEq

/-- The components of a path. -/
def components (path : String) : List Component :=
  let names := (FileTree.placeOf path).map .name
  if path.toList.head? = some '/' then .root :: names
  else if (parts path).head? = some "." then .here :: names
  else names

/-- Whether a text leads on along a row of names: behind each slash stands the next name, or
something that does not count. -/
inductive LeadsOn : List String → List Char → Prop
  | done : LeadsOn [] []
  | idle {part : String} {names : List String} {cs : List Char} (hidle : isIdle part)
      (hrest : LeadsOn names cs) : LeadsOn names ('/' :: (part.toList ++ cs))
  | name {name : String} {names : List String} {cs : List Char} (hidle : isIdle name = false)
      (hslash : '/' ∉ name.toList) (hrest : LeadsOn names cs) :
      LeadsOn (name :: names) ('/' :: (name.toList ++ cs))

/-- Whether a text is a path along a row of names. -/
inductive IsPathAlong : List String → List Char → Prop
  | intro {name : String} {names : List String} {cs : List Char} (hidle : isIdle name = false)
      (hslash : '/' ∉ name.toList) (hrest : LeadsOn names cs) :
      IsPathAlong (name :: names) (name.toList ++ cs)

variable {path : String} {names : List String} {cs : List Char}

/-- A path has names for its only components if nothing in front of them counts. -/
theorem components_eq_names_iff :
    components path = names.map .name ↔
      path.toList.head? ≠ some '/' ∧ (parts path).head? ≠ some "." ∧
        FileTree.placeOf path = names := by
  have hroot : ∀ rest, Component.root :: rest ≠ names.map .name := by cases names <;> simp
  have hhere : ∀ rest, Component.here :: rest ≠ names.map .name := by cases names <;> simp
  have hnames : (FileTree.placeOf path).map Component.name = names.map .name ↔
      FileTree.placeOf path = names := List.map_inj_right fun _ _ h => Component.name.inj h
  rw [components]
  split
  · next hslash => exact iff_of_false (hroot _) fun h => h.1 hslash
  · next hslash =>
    split
    · next hdot => exact iff_of_false (hhere _) fun h => h.2.1 hdot
    · next hdot => rw [hnames, and_iff_right hslash, and_iff_right hdot]

theorem parts_ne_nil (path : String) : parts path ≠ [] :=
  mt List.map_eq_nil_iff.1 (List.splitOn_ne_nil _ _)

theorem isIdle_iff {part : String} : isIdle part ↔ part = "" ∨ part = "." := by
  rw [isIdle, Bool.or_eq_true, decide_eq_true_eq, decide_eq_true_eq]

/-- What leads on begins with a slash, so whatever is in front of it is a part of its own. -/
theorem LeadsOn.splitOn (h : LeadsOn names cs) {first : List Char} (hfirst : '/' ∉ first) :
    ∃ rest : List String, (first ++ cs).splitOn '/' = first :: rest.map String.toList ∧
      rest.filter (!isIdle ·) = names := by
  induction h generalizing first with
  | done => exact ⟨[], by rw [List.append_nil, List.splitOn_eq_singleton hfirst, List.map_nil], rfl⟩
  | @idle part names cs hidle _ ih =>
    have hslash : '/' ∉ part.toList := by rcases isIdle_iff.1 hidle with rfl | rfl <;> decide
    obtain ⟨rest, hparts, hnames⟩ := ih hslash
    refine ⟨part :: rest, ?_, ?_⟩
    · rw [List.splitOn_append_cons_self_of_not_mem hfirst, hparts, List.map_cons]
    · rw [List.filter_cons_of_neg (by simp [hidle]), hnames]
  | @name name names cs hidle hslash _ ih =>
    obtain ⟨rest, hparts, hnames⟩ := ih hslash
    refine ⟨name :: rest, ?_, ?_⟩
    · rw [List.splitOn_append_cons_self_of_not_mem hfirst, hparts, List.map_cons]
    · rw [List.filter_cons_of_pos (by simp [hidle]), hnames]

theorem LeadsOn.parts (h : LeadsOn names cs) {first : String} (hfirst : '/' ∉ first.toList)
    (hpath : path.toList = first.toList ++ cs) :
    ∃ rest, parts path = first :: rest ∧ rest.filter (!isIdle ·) = names := by
  obtain ⟨rest, hsplit, hnames⟩ := h.splitOn hfirst
  refine ⟨rest, ?_, hnames⟩
  rw [Document.parts, hpath, hsplit]
  simp

/-- A path along names has them for its components, and no others. -/
theorem IsPathAlong.components_eq (h : IsPathAlong names path.toList) :
    components path = names.map .name := by
  generalize hpath : path.toList = cs at h
  cases h with
  | @intro name names cs hidle hslash hrest =>
    obtain ⟨rest, hparts, hnames⟩ := hrest.parts hslash hpath
    have hne : name.toList ≠ [] := by
      rintro hempty
      obtain rfl := String.toList_eq_nil_iff.1 hempty
      exact absurd hidle (by decide)
    refine components_eq_names_iff.2 ⟨?_, ?_, ?_⟩
    · obtain ⟨c, rest, hname⟩ := List.exists_cons_of_ne_nil hne
      rw [hpath, hname, List.cons_append, List.head?_cons, ne_eq, Option.some.injEq]
      rintro rfl
      exact hslash (hname ▸ List.mem_cons_self)
    · rw [hparts, List.head?_cons, ne_eq, Option.some.injEq]
      rintro rfl
      exact absurd hidle (by decide)
    · rw [FileTree.placeOf, hparts, List.filter_cons_of_pos (by simp [hidle]), hnames]

/-- Every text is something without slashes, and then leads on. -/
theorem exists_leadsOn (cs : List Char) :
    ∃ (first : String) (names : List String) (rest : List Char),
      cs = first.toList ++ rest ∧ '/' ∉ first.toList ∧ LeadsOn names rest := by
  induction cs with
  | nil => exact ⟨"", [], [], rfl, by decide, .done⟩
  | cons c cs ih =>
    obtain ⟨first, names, rest, rfl, hslash, hrest⟩ := ih
    by_cases hc : c = '/'
    · subst hc
      cases hidle : isIdle first with
      | true => exact ⟨"", names, _, rfl, by decide, .idle hidle hrest⟩
      | false => exact ⟨"", first :: names, _, rfl, by decide, .name hidle hslash hrest⟩
    · refine ⟨String.ofList (c :: first.toList), names, rest, ?_, ?_, hrest⟩
      · rw [String.toList_ofList, List.cons_append]
      · rw [String.toList_ofList]
        exact List.not_mem_cons_of_ne_of_not_mem (Ne.symm hc) hslash

/-- A slash in front has an empty part before it, and something behind it. -/
theorem head?_eq_slash_iff {first : String} {rest : List String}
    (hparts : parts path = first :: rest) :
    path.toList.head? = some '/' ↔ first = "" ∧ rest ≠ [] := by
  constructor
  · intro hslash
    obtain ⟨cs, hpath⟩ := List.head?_eq_some_iff.1 hslash
    have hsplit : ('/' :: cs).splitOn '/' = [] :: cs.splitOn '/' :=
      List.splitOn_append_cons_self_of_not_mem List.not_mem_nil cs
    rw [parts, hpath, hsplit, List.map_cons, List.cons.injEq] at hparts
    obtain ⟨rfl, rfl⟩ := hparts
    exact ⟨rfl, mt List.map_eq_nil_iff.1 (List.splitOn_ne_nil _ _)⟩
  · rintro ⟨rfl, hrest⟩
    obtain ⟨first, names, cs, hpath, hslash, hleads⟩ := exists_leadsOn path.toList
    obtain ⟨others, hothers, -⟩ := hleads.parts hslash hpath
    obtain ⟨rfl, rfl⟩ := List.cons.inj (hparts.symm.trans hothers)
    cases hleads with
    | done =>
      obtain rfl := String.toList_eq_nil_iff.1 hpath
      have hempty : parts "" = [""] := rfl
      exact absurd (List.cons.inj (hparts.symm.trans hempty)).2 hrest
    | idle | name => rw [hpath]; rfl

/-- A path that is not empty leads along names, or else a slash or a dot in front counts. -/
theorem path_cases (path : String) :
    path = "" ∨ path.toList.head? = some '/' ∨ (parts path).head? = some "." ∨
      ∃ names, IsPathAlong names path.toList := by
  obtain ⟨first, names, rest, hpath, hslash, hrest⟩ := exists_leadsOn path.toList
  cases hidle : isIdle first with
  | false =>
    refine .inr (.inr (.inr ⟨first :: names, ?_⟩))
    rw [hpath]
    exact .intro hidle hslash hrest
  | true =>
    rcases isIdle_iff.1 hidle with rfl | rfl
    · cases hrest with
      | done => exact .inl (String.toList_eq_nil_iff.1 hpath)
      | idle | name => exact .inr (.inl (by rw [hpath]; rfl))
    · obtain ⟨others, hparts, -⟩ := hrest.parts hslash hpath
      exact .inr (.inr (.inl (by rw [hparts]; rfl)))

/-- The paths along a row of names are those with these components. -/
theorem isPathAlong_iff (hne : names ≠ []) :
    IsPathAlong names path.toList ↔ components path = names.map .name := by
  constructor
  · exact IsPathAlong.components_eq
  · intro hcomponents
    obtain ⟨hslash, hdot, hplace⟩ := components_eq_names_iff.1 hcomponents
    rcases path_cases path with rfl | hslash' | hdot' | ⟨names', halong⟩
    · exact absurd hplace.symm hne
    · exact absurd hslash' hslash
    · exact absurd hdot' hdot
    · obtain rfl : names' = names := by
        rw [← hplace, ← (components_eq_names_iff.1 halong.components_eq).2.2]
      exact halong

end UnitLint.Document
