import Mathlib.Data.Bool.AllAny
import UnitLint.Proofs.Text.Spans
import UnitLint.Proofs.Validator.Entries
import UnitLint.Validator.Basic

/-!
# Lists of references

What is said about a list of references depends on its bad entries alone: nothing if there are
none, one wording for one of them, another for several. The bad entries of two lists with separators
between them are those of the one, then those of the other, so lists are judged entry by entry.
-/

namespace UnitLint.Validator

/-- Whether a text holds just these entries, in this order. An entry is as long as can be: behind it
the text ends or a separator stands. -/
inductive AreEntries : List (List Char) → List Char → Prop
  | none {gap : List Char} : (∀ c ∈ gap, isSeparator c) → AreEntries [] gap
  | one {gap entry rest : List Char} {entries : List (List Char)} :
      (∀ c ∈ gap, isSeparator c) → entry ≠ [] → (∀ c ∈ entry, isSeparator c = false) →
      Text.EndsSpan (!isSeparator ·) rest → AreEntries entries rest →
      AreEntries (entry :: entries) (gap ++ (entry ++ rest))

variable {entries : List (List Char)} {cs gap : List Char}

theorem endsSpan_separators (hgap : ∀ c ∈ gap, isSeparator c) :
    Text.EndsSpan (!isSeparator ·) gap :=
  .of_forall fun c hc => by rw [hgap c hc, Bool.not_true]

theorem AreEntries.cons_separator (h : AreEntries entries cs) {c : Char} (hc : isSeparator c) :
    AreEntries entries (c :: cs) := by
  cases h with
  | none hgap => exact .none (List.forall_mem_cons.2 ⟨hc, hgap⟩)
  | one hgap hne hentry hrest hentries =>
    exact .one (List.forall_mem_cons.2 ⟨hc, hgap⟩) hne hentry hrest hentries

/-- In front of a separator, a character is an entry of its own. -/
theorem AreEntries.cons_entry (h : AreEntries entries cs) {c : Char} (hc : isSeparator c = false)
    (hcs : Text.EndsSpan (!isSeparator ·) cs) : AreEntries ([c] :: entries) (c :: cs) := by
  show AreEntries ([c] :: entries) ([] ++ ([c] ++ cs))
  exact .one (List.forall_mem_nil _) (List.cons_ne_nil c []) (List.forall_mem_singleton.2 hc) hcs h

theorem exists_areEntries (cs : List Char) : ∃ entries, AreEntries entries cs := by
  induction cs with
  | nil => exact ⟨[], .none (List.forall_mem_nil _)⟩
  | cons c cs ih =>
    obtain ⟨entries, hentries⟩ := ih
    cases hc : isSeparator c with
    | true => exact ⟨entries, hentries.cons_separator hc⟩
    | false =>
      -- the character is part of the first entry or makes one, as there is a gap behind it or not
      cases hentries with
      | none hgap =>
        exact ⟨[[c]], AreEntries.cons_entry (.none hgap) hc (endsSpan_separators hgap)⟩
      | @one gap entry rest entries hgap hne hentry hrest hentries =>
        cases gap with
        | nil =>
          have hlonger : ∀ d ∈ c :: entry, isSeparator d = false :=
            List.forall_mem_cons.2 ⟨hc, hentry⟩
          exact ⟨(c :: entry) :: entries,
            .one (List.forall_mem_nil _) (List.cons_ne_nil c entry) hlonger hrest hentries⟩
        | cons separator gap =>
          have hnext : isSeparator separator := hgap separator List.mem_cons_self
          exact ⟨[c] :: entry :: entries,
            AreEntries.cons_entry (.one hgap hne hentry hrest hentries) hc
              (.cons (by rw [hnext]; rfl) _)⟩

theorem stretches_entry {entry : List Char} (hne : entry ≠ [])
    (hentry : ∀ c ∈ entry, isSeparator c = false) : stretches entry = [entry] := by
  rw [stretches, List.splitOnP_eq_singleton hentry, List.filter_singleton]
  simp [hne]

theorem AreEntries.stretches_eq (h : AreEntries entries cs) : stretches cs = entries := by
  induction h with
  | none hgap =>
    have hempty := stretches_append_of_separators hgap []
    rwa [List.nil_append] at hempty
  | @one gap entry rest entries hgap hne hentry hrest _ ih =>
    rw [stretches_separators_append hgap]
    cases rest with
    | nil => rw [List.append_nil, stretches_entry hne hentry, ← ih, stretches_nil]
    | cons separator rest =>
      have hseparator : isSeparator separator := by
        simpa using hrest separator rfl
      have hbehind := stretches_append_cons hseparator [] rest
      rw [List.nil_append, stretches_nil, List.nil_append] at hbehind
      rw [stretches_append_cons hseparator, stretches_entry hne hentry, ← hbehind, ih]
      rfl

/-- A text has entries in one way only, and they are found. -/
theorem areEntries_iff : AreEntries entries cs ↔ stretches cs = entries := by
  constructor
  · exact AreEntries.stretches_eq
  · rintro rfl
    obtain ⟨entries, hentries⟩ := exists_areEntries cs
    rwa [hentries.stretches_eq]

theorem areEntries_iff_listEntries {value : String} {entries : List String} :
    AreEntries (entries.map String.toList) value.toList ↔ listEntries value = entries := by
  rw [areEntries_iff, listEntries_eq]
  constructor
  · intro h
    simp [h, Function.comp_def]
  · rintro rfl
    simp [Function.comp_def]

/-! ## What is said about a list -/

/-- What is said about the only bad entry of a list. -/
def complaintOfOne (entry : String) : String :=
  Rejection.inQuotes entry ++ " is not a valid documentation reference " ++
    Rejection.expectedReferences

/-- What is said about several bad entries of a list. -/
def complaintOfMany (entries : List String) : String :=
  "invalid documentation references " ++ ", ".intercalate (entries.map Rejection.inQuotes) ++ " " ++
    Rejection.expectedReferences

theorem complaintOfOne_injective {entry entry' : String}
    (h : complaintOfOne entry = complaintOfOne entry') : entry = entry' := by
  have hquoted := (String.append_left_inj _).1 ((String.append_left_inj _).1 h)
  exact Rejection.inQuotes_injective hquoted

theorem head?_complaintOfOne (entry : String) :
    (complaintOfOne entry).toList.head? = some '\'' := by
  have hstart : "'".toList.head? = some '\'' := by decide +kernel
  simp only [complaintOfOne, Rejection.inQuotes, String.toList_append, List.head?_append, hstart,
    Option.some_or]

theorem head?_complaintOfMany (entries : List String) :
    (complaintOfMany entries).toList.head? = some 'i' := by
  have hstart : "invalid documentation references ".toList.head? = some 'i' := by decide +kernel
  unfold complaintOfMany
  simp only [String.toList_append, List.head?_append, hstart, Option.some_or]

/-- The two wordings differ from the first character on. -/
theorem complaintOfOne_ne (entry : String) (entries : List String) :
    complaintOfOne entry ≠ complaintOfMany entries := by
  intro h
  have hfirst := head?_complaintOfOne entry
  rw [h, head?_complaintOfMany] at hfirst
  exact absurd hfirst (by decide)

theorem diagnose?_documentation (value : String) :
    documentation.diagnose? value =
      match badReferences value with
      | [] => none
      | [entry] => some (complaintOfOne entry)
      | entries => some (complaintOfMany entries) := by
  rw [diagnose?, reject?, rejectReferences?]
  cases badReferences value with
  | nil => rfl
  | cons first others =>
    cases others with
    | nil => rfl
    | cons second others => rfl

section Wordings

variable {value entry : String}

theorem diagnose?_documentation_eq_none_iff :
    documentation.diagnose? value = none ↔ badReferences value = [] := by
  rw [diagnose?_documentation]
  split <;> simp_all

/-- One bad entry is quoted in the wording for one. -/
theorem diagnose?_documentation_eq_one_iff :
    documentation.diagnose? value = some (complaintOfOne entry) ↔
      badReferences value = [entry] := by
  rw [diagnose?_documentation]
  split
  · next hnone => simp [hnone]
  · next only honly =>
    rw [honly, Option.some.injEq, List.singleton_inj]
    constructor
    · exact complaintOfOne_injective
    · rintro rfl
      rfl
  · next hmany =>
    refine iff_of_false ?_ (hmany entry)
    rw [Option.some.injEq]
    exact (complaintOfOne_ne entry _).symm

/-- More bad entries are quoted, all of them, in the wording for many. -/
theorem diagnose?_documentation_eq_many_iff :
    documentation.diagnose? value = some (complaintOfMany (badReferences value)) ↔
      2 ≤ (badReferences value).length := by
  rw [diagnose?_documentation]
  split
  · next hnone => simp [hnone]
  · next only honly =>
    refine iff_of_false ?_ (by simp [honly])
    rw [Option.some.injEq]
    exact complaintOfOne_ne only _
  · next hnone hmany =>
    refine iff_of_true rfl ?_
    cases hbad : badReferences value with
    | nil => exact absurd hbad hnone
    | cons first others =>
      cases others with
      | nil => exact absurd hbad (hmany first)
      | cons second others => simp

/-- A list is accepted if each of its entries refers to documentation. -/
theorem accepts_documentation_iff :
    documentation.diagnose? value = none ↔ ∀ entry ∈ listEntries value, isReference entry := by
  rw [diagnose?_documentation_eq_none_iff, badReferences, List.filter_eq_nil_iff]
  simp only [Bool.not_eq_true', Bool.not_eq_false]

/-- An entry by itself is a list. -/
theorem accepts_entry_iff (hne : value ≠ "") (hvalue : ∀ c ∈ value.toList, isSeparator c = false) :
    documentation.diagnose? value = none ↔ isReference value := by
  have hchars : value.toList ≠ [] := by
    rwa [ne_eq, String.toList_eq_nil_iff]
  rw [accepts_documentation_iff, listEntries_eq, stretches_entry hchars hvalue, List.map_singleton,
    List.forall_mem_singleton, String.ofList_toList]

end Wordings

/-! ## Lists of lists -/

section Parts

variable {separators : String} (hseparators : ∀ c ∈ separators.toList, isSeparator c)
  (hne : separators ≠ "") (front back : String)
include hseparators hne

theorem listEntries_append_separators :
    listEntries (front ++ separators ++ back) = listEntries front ++ listEntries back := by
  have hchars : separators.toList ≠ [] := by
    rwa [ne_eq, String.toList_eq_nil_iff]
  simp only [listEntries_eq, String.toList_append, List.append_assoc,
    stretches_append_separators hseparators hchars, List.map_append]

theorem badReferences_append_separators :
    badReferences (front ++ separators ++ back) = badReferences front ++ badReferences back := by
  rw [badReferences, listEntries_append_separators hseparators hne, List.filter_append,
    ← badReferences, ← badReferences]

theorem accepts_append_separators_iff :
    documentation.diagnose? (front ++ separators ++ back) = none ↔
      documentation.diagnose? front = none ∧ documentation.diagnose? back = none := by
  simp only [diagnose?_documentation_eq_none_iff,
    badReferences_append_separators hseparators hne, List.append_eq_nil_iff]

end Parts

/-- A list is judged by its entries, which are told by where separators stand. What is said quotes
the bad ones, all of them, in order and as often as they occur. Parts with separators between them
are judged one by one, so nothing depends on the separators, nor on the order of the entries and on
how often they occur, as far as acceptance goes. -/
theorem diagnose?_badReferences :
    (∀ value : String,
      (∀ entries : List String,
        AreEntries (entries.map String.toList) value.toList ↔ listEntries value = entries) ∧
      badReferences value = (listEntries value).filter
        (fun entry => !isDocumentationUri entry && !isManPageReference entry) ∧
      (documentation.diagnose? value = none ↔ badReferences value = []) ∧
      (∀ entry, documentation.diagnose? value = some (complaintOfOne entry) ↔
        badReferences value = [entry]) ∧
      (documentation.diagnose? value = some (complaintOfMany (badReferences value)) ↔
        2 ≤ (badReferences value).length)) ∧
      (∀ front separators back : String, separators ≠ "" →
        (∀ c ∈ separators.toList, Text.isBlank c ∨ c = ',') →
        badReferences (front ++ separators ++ back) =
            badReferences front ++ badReferences back ∧
          (documentation.diagnose? (front ++ separators ++ back) = none ↔
            documentation.diagnose? front = none ∧ documentation.diagnose? back = none)) ∧
      ∀ value other : String, (∀ entry, entry ∈ listEntries value ↔ entry ∈ listEntries other) →
        (documentation.diagnose? value = none ↔ documentation.diagnose? other = none) := by
  refine ⟨fun value => ⟨fun entries => areEntries_iff_listEntries, ?_,
    diagnose?_documentation_eq_none_iff, fun entry => diagnose?_documentation_eq_one_iff,
    diagnose?_documentation_eq_many_iff⟩, ?_, ?_⟩
  · simp only [badReferences, isReference, Bool.not_or]
  · intro front separators back hne hkinds
    have hseparators : ∀ c ∈ separators.toList, isSeparator c := by
      intro c hc
      rw [isSeparator, Bool.or_eq_true, beq_iff_eq]
      exact hkinds c hc
    exact ⟨badReferences_append_separators hseparators hne front back,
      accepts_append_separators_iff hseparators hne front back⟩
  · intro value other hsame
    simp only [accepts_documentation_iff, hsame]

/-- A list of two parts, the first of which is bad twice, and a list that says all of another once
more and in another order. -/
theorem diagnose?_badReferences_parts :
    (∀ c ∈ " ,\t".toList, Text.isBlank c ∨ c = ',') ∧
      badReferences ("mailto:a,\u00a0mailto:a" ++ " ,\t" ++ "systemd(1)") =
        ["mailto:a", "mailto:a"] ∧
      (∀ entry, entry ∈ listEntries "systemd(1) man:x" ↔
        entry ∈ listEntries ",man:x\nsystemd(1) man:x") ∧
      documentation.diagnose? ",man:x\nsystemd(1) man:x" = none := by
  have hsame : ∀ entry, entry ∈ listEntries "systemd(1) man:x" ↔
      entry ∈ listEntries ",man:x\nsystemd(1) man:x" := by
    have hvalue : listEntries "systemd(1) man:x" = ["systemd(1)", "man:x"] := by decide +kernel
    have hother : listEntries ",man:x\nsystemd(1) man:x" = ["man:x", "systemd(1)", "man:x"] := by
      decide +kernel
    intro entry
    simp only [hvalue, hother, List.mem_cons, List.not_mem_nil, or_false]
    tauto
  have hkinds : ∀ c ∈ " ,\t".toList, Text.isBlank c ∨ c = ',' :=
    List.all_iff_forall_prop.1 (by decide +kernel)
  refine ⟨hkinds, ?_, hsame, ?_⟩
  · rw [(diagnose?_badReferences.2.1 _ " ,\t" _ (by decide) hkinds).1]
    decide +kernel
  · rw [← diagnose?_badReferences.2.2 "systemd(1) man:x" _ hsame]
    decide +kernel

end UnitLint.Validator
