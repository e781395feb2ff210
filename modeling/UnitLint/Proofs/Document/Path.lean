import UnitLint.Document.Blurb

/-!
# Paths of descriptions

A path along a row of names has these names as its parts, unless a slash in one of them makes it
two. Plain names have no slash and are no row of dots. So the path of a description has four parts,
none of which leads astray, and tells the setting it belongs to.
-/

namespace UnitLint.Document

/-- A letter or digit of ASCII, a hyphen or an underscore. -/
def IsPlainChar (c : Char) : Prop :=
  'A' ≤ c ∧ c ≤ 'Z' ∨ 'a' ≤ c ∧ c ≤ 'z' ∨ '0' ≤ c ∧ c ≤ '9' ∨ c = '-' ∨ c = '_'

theorem isPlainName_iff {name : String} :
    isPlainName name ↔ name ≠ "" ∧ ∀ c ∈ name.toList, IsPlainChar c := by
  have hchar : ∀ c : Char, (c.isAlphanum || c == '-' || c == '_') = true ↔ IsPlainChar c := by
    intro c
    have hupper : c.isUpper = true ↔ 'A' ≤ c ∧ c ≤ 'Z' := decide_eq_true_iff
    have hlower : c.isLower = true ↔ 'a' ≤ c ∧ c ≤ 'z' :=
      Bool.and_eq_true_iff.trans (and_congr decide_eq_true_iff decide_eq_true_iff)
    have hdigit : c.isDigit = true ↔ '0' ≤ c ∧ c ≤ '9' :=
      Bool.and_eq_true_iff.trans (and_congr decide_eq_true_iff decide_eq_true_iff)
    have halphanum : c.isAlphanum = true ↔
        (c.isUpper = true ∨ c.isLower = true) ∨ c.isDigit = true :=
      Bool.or_eq_true_iff.trans (or_congr_left Bool.or_eq_true_iff)
    rw [Bool.or_eq_true, Bool.or_eq_true, beq_iff_eq, beq_iff_eq, halphanum, hupper, hlower, hdigit,
      IsPlainChar]
    simp only [or_assoc]
  simp only [isPlainName, Bool.and_eq_true, decide_eq_true_eq, List.all_eq_true, hchar]

theorem isPlain_iff {setting : Setting} :
    isPlain setting ↔ isPlainName setting.sectionName ∧ isPlainName setting.key := by
  rw [isPlain, Bool.and_eq_true]

/-- A name under which a walk goes down: it leads neither up nor nowhere, and is not two names. -/
structure IsName (name : String) : Prop where
  notIdle : isIdle name = false
  notAbove : name ≠ ".."
  noSlash : '/' ∉ name.toList

/-- The path along a row of names. -/
def pathOf (place : List String) : String := "/".intercalate place

theorem toList_pathOf (place : List String) :
    (pathOf place).toList = ['/'].intercalate (place.map String.toList) :=
  String.toList_intercalate

/-- A path along names consists of their characters and of slashes. -/
theorem mem_toList_pathOf {place : List String} {c : Char} (h : c ∈ (pathOf place).toList) :
    c = '/' ∨ ∃ name ∈ place, c ∈ name.toList := by
  rw [toList_pathOf] at h
  induction place with
  | nil => contradiction
  | cons name rest ih =>
    cases rest with
    | nil => exact .inr ⟨name, List.mem_cons_self, by simpa using h⟩
    | cons next rest =>
      rw [List.map_cons, List.map_cons, List.intercalate_cons_cons, List.mem_append,
        List.mem_append, List.mem_singleton] at h
      rcases h with (hname | hslash) | hrest
      · exact .inr ⟨name, List.mem_cons_self, hname⟩
      · exact .inl hslash
      · exact (ih hrest).imp_right fun ⟨name, hmem, hc⟩ => ⟨name, List.mem_cons_of_mem _ hmem, hc⟩

theorem parts_pathOf {place : List String} (hne : place ≠ [])
    (hslash : ∀ name ∈ place, '/' ∉ name.toList) : parts (pathOf place) = place := by
  have hnames : ∀ cs ∈ place.map String.toList, '/' ∉ cs := by simpa using hslash
  rw [parts, toList_pathOf, List.splitOn_intercalate '/' hnames (by simpa using hne), List.map_map]
  simp

/-- A path tells the names along which it leads. -/
theorem pathOf_injective {place place' : List String} (hnames : ∀ name ∈ place, IsName name)
    (hnames' : ∀ name ∈ place', IsName name) (h : pathOf place = pathOf place') :
    place = place' := by
  have hparts : ∀ names ≠ [], (∀ name ∈ names, IsName name) → parts (pathOf names) = names :=
    fun names hne hnames => parts_pathOf hne fun name hname => (hnames name hname).noSlash
  -- the empty row has the empty path, whose only part is no name
  have hempty : ∀ names, (∀ name ∈ names, IsName name) → pathOf names = pathOf [] → names = [] := by
    intro names hnames h
    refine Classical.not_not.1 fun hne => ?_
    have hsole : names = [""] := (hparts names hne hnames).symm.trans (congrArg parts h)
    subst hsole
    exact absurd (hnames "" List.mem_cons_self).notIdle (by decide)
  by_cases hne : place = []
  · subst hne
    exact (hempty place' hnames' h.symm).symm
  by_cases hne' : place' = []
  · subst hne'
    exact hempty place hnames h
  rw [← hparts place hne hnames, h, hparts place' hne' hnames']

/-- The row of names at the end of which the description of a setting is kept. -/
def blurbPlace (setting : Setting) : List String :=
  ["documents", "completion", setting.sectionName, setting.key ++ ".html"]

theorem blurbPath_eq_pathOf (setting : Setting) :
    blurbPath setting.sectionName setting.key = pathOf (blurbPlace setting) := by
  apply String.toList_inj.1
  simp [blurbPath, directory, blurbPlace, toList_pathOf, List.intercalate]

/-- The characters of plain names are neither slashes nor dots, and not NUL. -/
theorem ne_of_isPlainName {name : String} (h : isPlainName name) :
    ∀ c ∈ name.toList, c ≠ '/' ∧ c ≠ '.' ∧ c ≠ '\x00' := by
  intro c hc
  have hplain := (isPlainName_iff.1 h).2 c hc
  refine ⟨?_, ?_, ?_⟩
  all_goals
    rintro rfl
    revert hplain
    unfold IsPlainChar
    decide

theorem isName_of_isPlainName {name : String} (h : isPlainName name) : IsName name where
  notIdle := by
    rw [isIdle, decide_eq_false (isPlainName_iff.1 h).1, Bool.false_or, decide_eq_false_iff_not]
    rintro rfl
    exact (ne_of_isPlainName h '.' (by decide)).2.1 rfl
  notAbove := by
    rintro rfl
    exact (ne_of_isPlainName h '.' (by decide)).2.1 rfl
  noSlash hslash := (ne_of_isPlainName h '/' hslash).1 rfl

theorem isName_html {key : String} (h : isPlainName key) : IsName (key ++ ".html") := by
  have hletter : 'h' ∈ (key ++ ".html").toList := by
    rw [String.toList_append]
    exact List.mem_append_right _ (by decide)
  have hne : ∀ name : String, 'h' ∉ name.toList → key ++ ".html" ≠ name := by
    rintro name hname rfl
    exact hname hletter
  refine ⟨?_, hne ".." (by decide), ?_⟩
  · rw [isIdle, decide_eq_false (hne "" (by decide)), decide_eq_false (hne "." (by decide))]
    rfl
  · rw [String.toList_append, List.mem_append]
    rintro (hslash | hslash)
    · exact (ne_of_isPlainName h '/' hslash).1 rfl
    · exact absurd hslash (by decide)

/-- Plain names lead from the directory of the descriptions to one of them. -/
theorem isName_of_mem_blurbPlace {setting : Setting} (hplain : isPlain setting) :
    ∀ name ∈ blurbPlace setting, IsName name := by
  obtain ⟨hsection, hkey⟩ := isPlain_iff.1 hplain
  intro name hname
  simp only [blurbPlace, List.mem_cons, List.not_mem_nil, or_false] at hname
  rcases hname with rfl | rfl | rfl | rfl
  · exact isName_of_isPlainName (by decide)
  · exact isName_of_isPlainName (by decide)
  · exact isName_of_isPlainName hsection
  · exact isName_html hkey

theorem nul_not_mem_of_mem_blurbPlace {setting : Setting} (hplain : isPlain setting) :
    ∀ name ∈ blurbPlace setting, '\x00' ∉ name.toList := by
  obtain ⟨hsection, hkey⟩ := isPlain_iff.1 hplain
  intro name hname
  simp only [blurbPlace, List.mem_cons, List.not_mem_nil, or_false] at hname
  rcases hname with rfl | rfl | rfl | rfl
  · decide
  · decide
  · exact fun hnul => (ne_of_isPlainName hsection _ hnul).2.2 rfl
  · rw [String.toList_append, List.mem_append]
    rintro (hnul | hnul)
    · exact (ne_of_isPlainName hkey _ hnul).2.2 rfl
    · exact absurd hnul (by decide)

theorem parts_blurbPath {setting : Setting} (hplain : isPlain setting) :
    parts (blurbPath setting.sectionName setting.key) = blurbPlace setting := by
  rw [blurbPath_eq_pathOf]
  exact parts_pathOf (List.cons_ne_nil _ _) fun name hname =>
    (isName_of_mem_blurbPlace hplain name hname).noSlash

/-- The path of its description tells a setting with plain names. -/
theorem blurbPath_injective {first second : Setting} (hfirst : isPlain first)
    (hsecond : isPlain second)
    (h : blurbPath first.sectionName first.key = blurbPath second.sectionName second.key) :
    first = second := by
  have hplace : blurbPlace first = blurbPlace second := by
    rw [← parts_blurbPath hfirst, ← parts_blurbPath hsecond, h]
  obtain ⟨sectionName, key⟩ := first
  obtain ⟨sectionName', key'⟩ := second
  simp only [blurbPlace, List.cons.injEq, true_and, and_true, String.append_left_inj] at hplace
  rw [hplace.1, hplace.2]

end UnitLint.Document
