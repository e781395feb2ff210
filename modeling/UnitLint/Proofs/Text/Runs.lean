import Mathlib.Data.List.Induction
import UnitLint.Validator.Documentation

/-!
# Maximal runs

The pieces of a text between separators, said without splitting: a run is a stretch of the text
without separators that cannot be made longer, because on either side the text ends or a separator
stands. The entries of a list of references are the runs that are not empty.
-/

namespace UnitLint.Text

/-- Whether a stretch of a text holds no separator and is bounded by separators or the ends. -/
def IsRun (isSeparator : Char → Bool) (cs run : List Char) : Prop :=
  ∃ before after, cs = before ++ run ++ after ∧ (∀ c ∈ run, isSeparator c = false) ∧
    (∀ c ∈ before.getLast?, isSeparator c) ∧ ∀ c ∈ after.head?, isSeparator c

variable {isSeparator : Char → Bool} {cs run : List Char}

/-- A text without separators is its only run, and the first separator ends the first run. -/
theorem splitOnP_cases (isSeparator : Char → Bool) (cs : List Char) :
    (∀ c ∈ cs, isSeparator c = false) ∨
      ∃ first separator rest, cs = first ++ separator :: rest ∧ isSeparator separator ∧
        ∀ c ∈ first, isSeparator c = false := by
  induction cs with
  | nil => exact .inl (by simp)
  | cons c cs ih =>
    by_cases hc : isSeparator c
    · exact .inr ⟨[], c, cs, rfl, hc, by simp⟩
    · rw [Bool.not_eq_true] at hc
      rcases ih with hnone | ⟨first, separator, rest, rfl, hseparator, hfirst⟩
      · exact .inl (List.forall_mem_cons.2 ⟨hc, hnone⟩)
      · exact .inr ⟨c :: first, separator, rest, rfl, hseparator,
          List.forall_mem_cons.2 ⟨hc, hfirst⟩⟩

theorem isRun_of_mem_splitOnP (h : run ∈ cs.splitOnP isSeparator) : IsRun isSeparator cs run := by
  induction hlength : cs.length using Nat.strongRecOn generalizing cs with
  | ind length ih =>
    rcases splitOnP_cases isSeparator cs with
      hnone | ⟨first, separator, rest, rfl, hseparator, hfirst⟩
    · rw [List.splitOnP_eq_singleton hnone, List.mem_singleton] at h
      subst h
      exact ⟨[], [], by simp, hnone, by simp, by simp⟩
    · rw [List.splitOnP_append_cons_of_forall_mem hfirst separator hseparator] at h
      rcases List.mem_cons.1 h with rfl | hrest
      · exact ⟨[], separator :: rest, by simp, hfirst, by simp, by simpa using hseparator⟩
      · have hshorter : rest.length < length := by
          rw [← hlength, List.length_append, List.length_cons]
          omega
        obtain ⟨before, after, rfl, hrun, hbefore, hafter⟩ := ih _ hshorter hrest rfl
        refine ⟨first ++ separator :: before, after, by simp, hrun, ?_, hafter⟩
        -- what stands before the run is either all of the text so far or ends in its own separator
        cases before using List.reverseRecOn with
        | nil => simpa using hseparator
        | append_singleton before last _ =>
          rw [← List.cons_append, ← List.append_assoc, List.getLast?_concat]
          rwa [List.getLast?_concat] at hbefore

theorem mem_splitOnP_of_isRun (h : IsRun isSeparator cs run) : run ∈ cs.splitOnP isSeparator := by
  obtain ⟨before, after, rfl, hrun, hbefore, hafter⟩ := h
  have hfront : run ∈ (run ++ after).splitOnP isSeparator := by
    cases after with
    | nil => simp [List.splitOnP_eq_singleton hrun]
    | cons separator after =>
      rw [List.splitOnP_append_cons_of_forall_mem hrun separator (hafter separator rfl)]
      exact List.mem_cons_self
  cases before using List.reverseRecOn with
  | nil => simpa using hfront
  | append_singleton before separator _ =>
    have hseparator : isSeparator separator := hbefore separator (by simp)
    rw [List.append_assoc, List.append_assoc, List.singleton_append,
      List.splitOnP_append_cons before _ hseparator]
    exact List.mem_append_right _ hfront

/-- Splitting a text at its separators gives its runs. -/
theorem mem_splitOnP_iff : run ∈ cs.splitOnP isSeparator ↔ IsRun isSeparator cs run :=
  ⟨isRun_of_mem_splitOnP, mem_splitOnP_of_isRun⟩

end UnitLint.Text

namespace UnitLint.Validator

/-- The entries of a list are the runs of the value that are not empty. -/
theorem mem_listEntries {value entry : String} :
    entry ∈ listEntries value ↔ entry ≠ "" ∧ Text.IsRun isSeparator value.toList entry.toList := by
  simp only [listEntries, List.mem_map, List.mem_filter, Text.mem_splitOnP_iff, decide_eq_true_eq]
  constructor
  · rintro ⟨run, ⟨hrun, hne⟩, rfl⟩
    refine ⟨?_, by simpa using hrun⟩
    intro hempty
    exact hne (by simpa using congrArg String.toList hempty)
  · rintro ⟨hne, hrun⟩
    refine ⟨entry.toList, ⟨hrun, ?_⟩, String.ofList_toList⟩
    intro hempty
    exact hne (String.toList_inj.1 hempty)

end UnitLint.Validator
