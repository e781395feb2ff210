import UnitLint.Proofs.Document.Answer
import UnitLint.Proofs.Document.Place
import UnitLint.Registry.Basic

/-!
# What a description depends on

A description is the text of one file, at a place told by the names of its setting. No other file
has a part in it, and a name that is not plain leads to no file.
-/

namespace UnitLint.Document

variable {setting : Setting}

/-- A description is the text that the bytes encode with which the store answers. -/
theorem value_blurb?_eq_some_iff {store : Store} {text : String} :
    (blurb? store setting).value = some text ↔
      isPlain setting ∧
        store (blurbPath setting.sectionName setting.key) = .ok (some text.toUTF8) := by
  by_cases hplain : isPlain setting
  · rw [(comesOf_blurb? store hplain).value_eq_some_iff, and_iff_right hplain]
  · simp [blurb?_of_not_isPlain store hplain, hplain]

/-- Stores that have the same bytes for a setting give the same description of it. -/
theorem value_blurb?_congr {store store' : Store}
    (h : isPlain setting → ∀ bytes,
      store (blurbPath setting.sectionName setting.key) = .ok (some bytes) ↔
        store' (blurbPath setting.sectionName setting.key) = .ok (some bytes)) :
    (blurb? store setting).value = (blurb? store' setting).value := by
  apply Option.ext
  intro text
  rw [value_blurb?_eq_some_iff, value_blurb?_eq_some_iff]
  exact and_congr_right fun hplain => h hplain text.toUTF8

/-- Names with other characters than plain ones have no description. -/
theorem value_blurb?_eq_none {store : Store} (hplain : ¬ isPlain setting) :
    (blurb? store setting).value = none := by
  rw [blurb?_of_not_isPlain store hplain]

theorem not_isPlain_of_mem {c : Char}
    (hmem : c ∈ setting.sectionName.toList ++ setting.key.toList) (hc : ¬ IsPlainChar c) :
    ¬ isPlain setting := by
  intro hplain
  obtain ⟨hsection, hkey⟩ := isPlain_iff.1 hplain
  rcases List.mem_append.1 hmem with hmem | hmem
  · exact hc ((isPlainName_iff.1 hsection).2 c hmem)
  · exact hc ((isPlainName_iff.1 hkey).2 c hmem)

/-- The path of a description has no character that no path has. -/
theorem nul_not_mem_blurbPath (hplain : isPlain setting) :
    '\x00' ∉ (pathOf (blurbPlace setting)).toList := by
  intro hnul
  rcases mem_toList_pathOf hnul with hslash | ⟨name, hname, hmem⟩
  · exact absurd hslash (by decide)
  · exact nul_not_mem_of_mem_blurbPlace hplain name hname hmem

/-- Where its names are short enough, so is the path of a description. -/
theorem utf8ByteSize_blurbPath_le
    (hlength : ∀ name ∈ blurbPlace setting, name.utf8ByteSize ≤ FileTree.maxName) :
    (pathOf (blurbPlace setting)).utf8ByteSize ≤ FileTree.maxPath := by
  have hsection := hlength setting.sectionName (by simp [blurbPlace])
  have hkey := hlength (setting.key ++ ".html") (by simp [blurbPlace])
  have hdirectory : directory.utf8ByteSize = 20 := by decide
  have hslash : "/".utf8ByteSize = 1 := by decide
  rw [String.utf8ByteSize_append] at hkey
  rw [← blurbPath_eq_pathOf, blurbPath]
  simp only [String.utf8ByteSize_append, FileTree.maxName, FileTree.maxPath] at *
  omega

/-- Of a tree, a description sees the file at its place. -/
theorem store_blurbPath_eq_some_iff {tree : FileTree} {bytes : ByteArray}
    (hplain : isPlain setting) :
    tree.store (blurbPath setting.sectionName setting.key) = .ok (some bytes) ↔
      (∀ name ∈ blurbPlace setting, name.utf8ByteSize ≤ FileTree.maxName) ∧
        tree.file? (blurbPlace setting) = some bytes := by
  have hne : blurbPlace setting ≠ [] := List.cons_ne_nil _ _
  rw [blurbPath_eq_pathOf, FileTree.store_pathOf_eq_some_iff hne (isName_of_mem_blurbPlace hplain),
    and_iff_right (nul_not_mem_blurbPath hplain)]
  exact and_iff_right_of_imp fun h => utf8ByteSize_blurbPath_le h.1

end UnitLint.Document

namespace UnitLint.Registry

open Document

/-- Two registries give the same description of a setting while their directories have the same file
at its place, or both none. What else the two directories hold has no part in it, nor what else the
registries know. A setting with a name that is not plain has no description, whatever the directory
holds. -/
theorem blurb?_depends_on_file {first second : Registry} (hfirst : first.library = .directory)
    (hsecond : second.library = .directory) (setting : Setting) :
    (∀ tree tree' : FileTree,
      tree.file? (blurbPlace setting) = tree'.file? (blurbPlace setting) →
        (first.blurb? tree setting).value = (second.blurb? tree' setting).value) ∧
    ∀ tree : FileTree,
      (∃ c ∈ setting.sectionName.toList ++ setting.key.toList, ¬ IsPlainChar c) →
        (first.blurb? tree setting).value = none := by
  constructor
  · intro tree tree' hfile
    rw [blurb?, blurb?, hfirst, hsecond]
    refine value_blurb?_congr fun hplain bytes => ?_
    change tree.store _ = _ ↔ tree'.store _ = _
    rw [store_blurbPath_eq_some_iff hplain, store_blurbPath_eq_some_iff hplain, hfile]
  · rintro tree ⟨c, hmem, hc⟩
    exact value_blurb?_eq_none (not_isPlain_of_mem hmem hc)

/-- One directory has two more files, and a name with dots and a slash leads to none of them. -/
theorem blurb?_depends_on_file_added :
    ((⟨⟨∅⟩, .empty, .directory⟩ : Registry).blurb?
        (.directory [("documents", .directory [("completion", .directory [("Unit",
          .directory [("X.html", .file "text".toUTF8)])])])]) ⟨"Unit", "X"⟩).value =
      ((⟨⟨∅⟩, .empty, .directory⟩ : Registry).blurb?
        (.directory [(Asset.recordTableName, .file .empty), ("documents",
          .directory [("completion", .directory [("Unit", .directory [("Y.html", .file .empty),
            ("X.html", .file "text".toUTF8)])])])]) ⟨"Unit", "X"⟩).value ∧
    ((⟨⟨∅⟩, .empty, .directory⟩ : Registry).blurb?
        (.directory [("documents", .directory [("completion", .directory [("X.html",
          .file "text".toUTF8)])])]) ⟨"Unit", "../X"⟩).value = none := by
  have hlibrary : (⟨⟨∅⟩, .empty, .directory⟩ : Registry).library = .directory := rfl
  have hslash : ∃ c ∈ "Unit".toList ++ "../X".toList, ¬ IsPlainChar c :=
    ⟨'/', by decide, by unfold IsPlainChar; decide⟩
  exact ⟨(blurb?_depends_on_file hlibrary hlibrary ⟨"Unit", "X"⟩).1 _ _ rfl,
    (blurb?_depends_on_file hlibrary hlibrary ⟨"Unit", "../X"⟩).2 _ hslash⟩

end UnitLint.Registry
