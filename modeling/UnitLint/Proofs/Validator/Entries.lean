import UnitLint.Validator.Documentation

/-!
# Entries of lists

The entries of a list of references can be told part by part: wherever a separator stands, what is
in front of it and what is behind it have entries of their own, and nothing is lost or joined. It
does not matter how many separators there are, or whether the list begins or ends with some.
-/

namespace UnitLint.Validator

/-- The stretches of a text between its separators, but for the empty ones. -/
def stretches (cs : List Char) : List (List Char) :=
  (cs.splitOnP isSeparator).filter (· ≠ [])

theorem listEntries_eq (value : String) :
    listEntries value = (stretches value.toList).map String.ofList := rfl

theorem stretches_nil : stretches [] = [] := rfl

/-- A separator parts a text. All that is said of stretches follows from this. -/
theorem stretches_append_cons {separator : Char} (h : isSeparator separator)
    (before behind : List Char) :
    stretches (before ++ separator :: behind) = stretches before ++ stretches behind := by
  rw [stretches, List.splitOnP_append_cons before behind h, List.filter_append]
  rfl

section Separators

variable {separators : List Char} (h : ∀ c ∈ separators, isSeparator c)
include h

/-- In front of a text, separators are not noticed. -/
theorem stretches_separators_append (cs : List Char) :
    stretches (separators ++ cs) = stretches cs := by
  induction separators with
  | nil => rfl
  | cons separator separators ih =>
    obtain ⟨hseparator, hseparators⟩ := List.forall_mem_cons.1 h
    have hparted := stretches_append_cons hseparator [] (separators ++ cs)
    rw [List.nil_append] at hparted
    rw [List.cons_append, hparted, stretches_nil, List.nil_append, ih hseparators]

/-- Separators part a text, however many there are. -/
theorem stretches_append_separators (hne : separators ≠ []) (before behind : List Char) :
    stretches (before ++ (separators ++ behind)) = stretches before ++ stretches behind := by
  cases separators with
  | nil => exact absurd rfl hne
  | cons separator separators =>
    obtain ⟨hseparator, hseparators⟩ := List.forall_mem_cons.1 h
    rw [List.cons_append, stretches_append_cons hseparator,
      stretches_separators_append hseparators]

/-- Behind a text, separators are not noticed either. -/
theorem stretches_append_of_separators (cs : List Char) :
    stretches (cs ++ separators) = stretches cs := by
  by_cases hne : separators = []
  · rw [hne, List.append_nil]
  · have hparted := stretches_append_separators h hne cs []
    rwa [stretches_nil, List.append_nil, List.append_nil] at hparted

end Separators

end UnitLint.Validator
