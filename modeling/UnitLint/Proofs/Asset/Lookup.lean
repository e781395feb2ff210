import UnitLint.Document.Store
import UnitLint.Proofs.Document.Components

/-!
# Looking up built-in files

A built-in file is found under every path with its components, and under no other path. So nothing
is found under the path of a directory, nor where two dots would lead back to a file, nor under a
path that begins with a slash or a dot.
-/

namespace UnitLint.Asset

open Document (Component components components_eq_names_iff IsPathAlong isPathAlong_iff parts)

variable {path text : String} {names rest : List String}

/-! ## The files -/

/-- The names that lead to the files: the tables are in front of the descriptions. -/
def places : List (List String) :=
  [catalogName] :: [recordTableName] ::
    blurbs.map fun ((sectionName, key), _) => Document.blurbPlace ⟨sectionName, key⟩

theorem map_fst_files : files.map Prod.fst = places := by decide +kernel

theorem nodup_places : places.Nodup := by decide +kernel

theorem eq_of_prefix_places : ∀ place ∈ places, ∀ longer ∈ places,
    place <+: longer → place = longer := by decide +kernel

theorem forall_mem_places : ∀ place ∈ places, place ≠ [] ∧ ".." ∉ place := by decide +kernel

theorem mem_places (h : (names, text) ∈ files) : names ∈ places :=
  map_fst_files ▸ List.mem_map_of_mem h

/-- No two files are in one place. -/
theorem lookup_files_eq_some_iff : files.lookup names = some text ↔ (names, text) ∈ files := by
  rw [List.lookup_eq_some_iff]
  constructor
  · rintro ⟨before, after, hfiles, -⟩
    rw [hfiles]
    exact List.mem_append_right _ List.mem_cons_self
  · intro hmem
    obtain ⟨before, after, hfiles⟩ := List.append_of_mem hmem
    refine ⟨before, after, hfiles, fun file hfile => ?_⟩
    have hnodup := nodup_places
    rw [← map_fst_files, hfiles, List.map_append, List.map_cons, List.nodup_append] at hnodup
    have hne : file.1 ≠ names := hnodup.2.2 _ (List.mem_map_of_mem hfile) _ List.mem_cons_self
    simpa using hne.symm

theorem files_ne_nil (h : (names, text) ∈ files) : names ≠ [] :=
  (forall_mem_places names (mem_places h)).1

/-- No file is in a directory of two dots. -/
theorem dots_not_mem_of_mem_files (h : (names, text) ∈ files) : ".." ∉ names :=
  (forall_mem_places names (mem_places h)).2

/-- No directory is a file. -/
theorem lookup_files_of_directory (h : (names ++ rest, text) ∈ files) (hrest : rest ≠ []) :
    files.lookup names = none := by
  rw [Option.eq_none_iff_forall_ne_some]
  intro other hother
  have hnames := mem_places (lookup_files_eq_some_iff.1 hother)
  have heq := eq_of_prefix_places _ hnames _ (mem_places h) ⟨rest, rfl⟩
  exact hrest (List.self_eq_append_right.1 heq)

/-! ## The paths to them -/

theorem partsBelow?_eq_some_iff :
    partsBelow? path = some names ↔ components path = names.map .name := by
  rw [components_eq_names_iff]
  obtain ⟨first, others, hparts⟩ : ∃ first others, parts path = first :: others :=
    List.exists_cons_of_ne_nil (Document.parts_ne_nil path)
  rw [ne_eq, Document.head?_eq_slash_iff hparts, partsBelow?, hparts, List.head?_cons,
    Document.FileTree.placeOf, hparts]
  dsimp only
  split
  · next hdot => simp [hdot]
  · next hdot =>
    split
    · next hslash => simp [hslash]
    · next hslash => simp [hdot, hslash]

/-- A file is found under the paths with its components. -/
theorem file?_eq_some_iff :
    file? path = some text ↔ ∃ names, (names, text) ∈ files ∧ components path = names.map .name := by
  simp only [file?, Option.bind_eq_some_iff, partsBelow?_eq_some_iff, lookup_files_eq_some_iff,
    and_comm]

/-- A path that tells no file by its components is a path to nothing. -/
theorem file?_eq_none_iff :
    file? path = none ↔ ∀ names text, (names, text) ∈ files → components path ≠ names.map .name := by
  constructor
  · intro hnone names text hmem hcomponents
    have hsome := file?_eq_some_iff.2 ⟨names, hmem, hcomponents⟩
    cases hnone.symm.trans hsome
  · intro hnone
    rw [Option.eq_none_iff_forall_ne_some]
    intro text hsome
    obtain ⟨names, hmem, hcomponents⟩ := file?_eq_some_iff.1 hsome
    exact hnone names text hmem hcomponents

theorem file?_of_components (h : components path = names.map .name) :
    file? path = files.lookup names := by
  rw [file?, partsBelow?_eq_some_iff.2 h, Option.bind_some]

theorem file?_congr {other : String} (h : components other = components path) :
    file? other = file? path := by
  ext text
  rw [file?_eq_some_iff, file?_eq_some_iff, h]

/-- Two dots lead to no file, whatever they would lead to in a file system. -/
theorem file?_of_dots (h : ".." ∈ parts path) : file? path = none := by
  rw [file?_eq_none_iff]
  intro names text hmem hcomponents
  obtain ⟨-, -, rfl⟩ := components_eq_names_iff.1 hcomponents
  exact dots_not_mem_of_mem_files hmem (List.mem_filter.2 ⟨h, by decide⟩)

theorem file?_of_front (h : path.toList.head? = some '/' ∨ (parts path).head? = some ".") :
    file? path = none := by
  rw [file?_eq_none_iff]
  intro names text _ hcomponents
  obtain ⟨hslash, hdot, -⟩ := components_eq_names_iff.1 hcomponents
  exact h.elim hslash hdot

/-! ## The store of the files -/

theorem builtIn_of_file?_eq_none (h : file? path = none) :
    Document.Store.builtIn path = .ok none := by
  rw [Document.Store.builtIn, h, Option.map_none]

theorem builtIn_eq_some_iff {bytes : ByteArray} :
    Document.Store.builtIn path = .ok (some bytes) ↔
      ∃ names text, (names, text) ∈ files ∧ components path = names.map .name ∧
        text.toUTF8 = bytes := by
  rw [Document.Store.builtIn, Except.ok.injEq, Option.map_eq_some_iff]
  simp only [file?_eq_some_iff]
  constructor
  · rintro ⟨text, ⟨names, hmem, hcomponents⟩, hbytes⟩
    exact ⟨names, text, hmem, hcomponents, hbytes⟩
  · rintro ⟨names, text, hmem, hcomponents, hbytes⟩
    exact ⟨text, ⟨names, hmem, hcomponents⟩, hbytes⟩

/-- The names in a path tell the file, unless a slash or a dot is in front. -/
theorem builtIn_eq_some_iff_place {bytes : ByteArray} :
    Document.Store.builtIn path = .ok (some bytes) ↔
      path.toList.head? ≠ some '/' ∧ (parts path).head? ≠ some "." ∧
        ∃ text, (Document.FileTree.placeOf path, text) ∈ files ∧ text.toUTF8 = bytes := by
  rw [builtIn_eq_some_iff]
  constructor
  · rintro ⟨names, text, hmem, hcomponents, hbytes⟩
    obtain ⟨hslash, hdot, rfl⟩ := components_eq_names_iff.1 hcomponents
    exact ⟨hslash, hdot, text, hmem, hbytes⟩
  · rintro ⟨hslash, hdot, text, hmem, hbytes⟩
    exact ⟨_, text, hmem, components_eq_names_iff.2 ⟨hslash, hdot, rfl⟩, hbytes⟩

/-- The paths to a file are those along its names. -/
theorem builtIn_eq_some_iff_along {bytes : ByteArray} :
    Document.Store.builtIn path = .ok (some bytes) ↔
      ∃ names text, (names, text) ∈ files ∧ IsPathAlong names path.toList ∧
        text.toUTF8 = bytes := by
  rw [builtIn_eq_some_iff]
  refine exists_congr fun names => exists_congr fun text => and_congr_right fun hmem => ?_
  rw [isPathAlong_iff (files_ne_nil hmem)]

/-- Nothing goes wrong, and nothing else than the files is found. -/
theorem builtIn_eq_none_or (path : String) :
    Document.Store.builtIn path = .ok none ∨
      ∃ file ∈ files, Document.Store.builtIn path = .ok (some file.2.toUTF8) := by
  cases hfile : file? path with
  | none => exact .inl (builtIn_of_file?_eq_none hfile)
  | some text =>
    obtain ⟨names, hmem, -⟩ := file?_eq_some_iff.1 hfile
    refine .inr ⟨_, hmem, ?_⟩
    rw [Document.Store.builtIn, hfile, Option.map_some]

/-- The built-in store has, under a path, the file with the names of the path, provided that no
slash and no dot stands in front. There are no directories, and two dots are a name that no file
has. -/
theorem builtIn_by_components (path : String) :
    (∀ bytes, Document.Store.builtIn path = .ok (some bytes) ↔
      path.toList.head? ≠ some '/' ∧ (parts path).head? ≠ some "." ∧
        ∃ text, (Document.FileTree.placeOf path, text) ∈ files ∧ text.toUTF8 = bytes) ∧
    (∀ bytes, Document.Store.builtIn path = .ok (some bytes) ↔
      ∃ names text, (names, text) ∈ files ∧ IsPathAlong names path.toList ∧
        text.toUTF8 = bytes) ∧
    (Document.Store.builtIn path = .ok none ∨
      ∃ file ∈ files, Document.Store.builtIn path = .ok (some file.2.toUTF8)) ∧
    (∀ other, components other = components path →
      Document.Store.builtIn other = Document.Store.builtIn path) ∧
    (∀ names rest text, (names ++ rest, text) ∈ files → rest ≠ [] →
      components path = names.map .name → Document.Store.builtIn path = .ok none) ∧
    (path.toList.head? = some '/' ∨ (parts path).head? = some "." ∨ ".." ∈ parts path →
      Document.Store.builtIn path = .ok none) := by
  refine ⟨fun bytes => builtIn_eq_some_iff_place, fun bytes => builtIn_eq_some_iff_along,
    builtIn_eq_none_or path, ?same, ?directory, ?front⟩
  case same =>
    intro other hother
    rw [Document.Store.builtIn, Document.Store.builtIn, file?_congr hother]
  case directory =>
    intro names rest text hmem hrest hcomponents
    apply builtIn_of_file?_eq_none
    rw [file?_of_components hcomponents, lookup_files_of_directory hmem hrest]
  case front =>
    intro hfront
    apply builtIn_of_file?_eq_none
    rcases hfront with hslash | hdot | hdots
    · exact file?_of_front (.inl hslash)
    · exact file?_of_front (.inr hdot)
    · exact file?_of_dots hdots

/-- Slashes in a row and single dots behind names do not count; a directory is not found, nor is a
table behind a dot in front or behind two dots. -/
theorem builtIn_by_components_spelled :
    (∃ file ∈ files, file.1 = ["documents", "completion", "Unit", "Description.html"] ∧
      Document.Store.builtIn "documents//./completion/Unit/Description.html/." =
        .ok (some file.2.toUTF8)) ∧
    Document.Store.builtIn "documents/completion" = .ok none ∧
    Document.Store.builtIn "./sectionToKeywordMap.json" = .ok none ∧
    Document.Store.builtIn "documents/../sectionToKeywordMap.json" = .ok none := by
  have hplace : ["documents", "completion", "Unit", "Description.html"] ∈ places := by
    decide +kernel
  rw [← map_fst_files] at hplace
  obtain ⟨⟨names, text⟩, hmem, rfl⟩ := List.mem_map.1 hplace
  refine ⟨⟨_, hmem, rfl, ?_⟩, ?_, ?_, ?_⟩
  · have hnames : Document.FileTree.placeOf "documents//./completion/Unit/Description.html/." =
        ["documents", "completion", "Unit", "Description.html"] := by decide
    refine ((builtIn_by_components _).1 _).2 ⟨by decide, by decide, text, ?_, rfl⟩
    rw [hnames]
    exact hmem
  · exact (builtIn_by_components _).2.2.2.2.1 ["documents", "completion"]
      ["Unit", "Description.html"] text hmem (by decide) (by decide)
  · exact (builtIn_by_components _).2.2.2.2.2 (.inr (.inl (by decide)))
  · exact (builtIn_by_components _).2.2.2.2.2 (.inr (.inr (by decide)))

end UnitLint.Asset
