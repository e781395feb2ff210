import UnitLint.Proofs.Text.Spans
import UnitLint.Proofs.Validator.Entries
import UnitLint.Validator.Basic

/-!
# White space around values

Blanks in front of a value and behind it change nothing about how it is judged, nor what is said
about it. Most validators trim a value before they look at it. A list of references is not trimmed,
but the blanks at its ends are separators, and separators at an end make no entry.
-/

namespace UnitLint

namespace Text

section Trimming

variable {before behind : List Char} (hbefore : ∀ c ∈ before, isBlank c)
  (hbehind : ∀ c ∈ behind, isBlank c)

include hbefore in
theorem trimChars_blanks_append (cs : List Char) : trimChars (before ++ cs) = trimChars cs := by
  rw [trimChars, List.dropWhile_append_of_pos hbefore]
  rfl

include hbehind in
theorem trimChars_append_blanks (cs : List Char) : trimChars (cs ++ behind) = trimChars cs := by
  change ((cs ++ behind).dropWhile isBlank).rdropWhile isBlank =
    (cs.dropWhile isBlank).rdropWhile isBlank
  rw [List.dropWhile_append]
  split
  · next hblank =>
    rw [List.dropWhile_eq_nil_iff.2 hbehind, List.isEmpty_iff.1 hblank]
  · exact rdropWhile_append_span hbehind _

end Trimming

theorem trim_surrounded {before behind : String} (hbefore : ∀ c ∈ before.toList, isBlank c)
    (hbehind : ∀ c ∈ behind.toList, isBlank c) (value : String) :
    trim (before ++ value ++ behind) = trim value := by
  rw [trim, String.toList_append, String.toList_append, trimChars_append_blanks hbehind,
    trimChars_blanks_append hbefore]
  rfl

end Text

theorem Vocabulary.reject?_surrounded {before behind : String}
    (hbefore : ∀ c ∈ before.toList, Text.isBlank c)
    (hbehind : ∀ c ∈ behind.toList, Text.isBlank c) (vocabulary : Vocabulary) (value : String) :
    vocabulary.reject? (before ++ value ++ behind) = vocabulary.reject? value := by
  rw [reject?, Text.trim_surrounded hbefore hbehind, reject?]

namespace Validator

variable {before behind : String} (hbefore : ∀ c ∈ before.toList, Text.isBlank c)
  (hbehind : ∀ c ∈ behind.toList, Text.isBlank c)
include hbefore hbehind

theorem parseBoolean_surrounded (value : String) :
    parseBoolean (before ++ value ++ behind) = parseBoolean value := by
  rw [parseBoolean, Text.trim_surrounded hbefore hbehind, parseBoolean]

theorem parseMode_surrounded (value : String) :
    parseMode (before ++ value ++ behind) = parseMode value := by
  rw [parseMode, Text.trim_surrounded hbefore hbehind, parseMode]

theorem listEntries_surrounded (value : String) :
    listEntries (before ++ value ++ behind) = listEntries value := by
  have hfront : ∀ c ∈ before.toList, isSeparator c := by
    intro c hc
    rw [isSeparator, hbefore c hc, Bool.true_or]
  have hend : ∀ c ∈ behind.toList, isSeparator c := by
    intro c hc
    rw [isSeparator, hbehind c hc, Bool.true_or]
  rw [listEntries_eq, String.toList_append, String.toList_append,
    stretches_append_of_separators hend, stretches_separators_append hfront, ← listEntries_eq]

theorem badReferences_surrounded (value : String) :
    badReferences (before ++ value ++ behind) = badReferences value := by
  rw [badReferences, listEntries_surrounded hbefore hbehind, badReferences]

theorem rejectReferences?_surrounded (value : String) :
    rejectReferences? (before ++ value ++ behind) = rejectReferences? value := by
  rw [rejectReferences?, badReferences_surrounded hbefore hbehind, rejectReferences?]

theorem reject?_surrounded (validator : Validator) (value : String) :
    validator.reject? (before ++ value ++ behind) = validator.reject? value := by
  cases validator with
  | boolean => rw [reject?, reject?, parseBoolean_surrounded hbefore hbehind]
  | serviceType => rw [reject?, reject?, Vocabulary.reject?_surrounded hbefore hbehind]
  | restartPolicy => rw [reject?, reject?, Vocabulary.reject?_surrounded hbefore hbehind]
  | killMode => rw [reject?, reject?, Vocabulary.reject?_surrounded hbefore hbehind]
  | modeString => rw [reject?, reject?, parseMode_surrounded hbefore hbehind]
  | documentation => rw [reject?, reject?, rejectReferences?_surrounded hbefore hbehind]
  | null => rfl

/-- Every validator says the same about a value with blanks around it as about the value itself, if
it says anything, and the same boolean or mode is read, or the same fault found. -/
theorem diagnose?_surrounded (value : String) :
    (∀ validator : Validator,
        validator.diagnose? (before ++ value ++ behind) = validator.diagnose? value) ∧
      parseBoolean (before ++ value ++ behind) = parseBoolean value ∧
      parseMode (before ++ value ++ behind) = parseMode value := by
  refine ⟨fun validator => ?_, parseBoolean_surrounded hbefore hbehind value,
    parseMode_surrounded hbefore hbehind value⟩
  rw [diagnose?, reject?_surrounded hbefore hbehind, diagnose?]

omit hbefore hbehind

/-- Blanks that are not of ASCII, around a list that holds some of its own. -/
theorem diagnose?_surrounded_list :
    documentation.diagnose? ("\u3000\t" ++ "a, \u00a0b" ++ "\u2029\n") =
      some (Rejection.badReferences ["a", "b"]).message := by
  rw [(diagnose?_surrounded (List.all_eq_true.1 rfl) (List.all_eq_true.1 rfl) "a, \u00a0b").1]
  decide +kernel

end Validator

end UnitLint
