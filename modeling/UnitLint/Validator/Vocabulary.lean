import UnitLint.Text.Blank
import UnitLint.Text.EditDistance
import UnitLint.Validator.Rejection

/-!
# Vocabularies

Settings that take one of a few words. A value that is none of them, but within two edits of one,
is taken for a slip, and the nearest word is suggested; of several as near, the first.
-/

namespace UnitLint

/-- The words that a key takes. -/
structure Vocabulary where
  key : String
  words : List String
  deriving DecidableEq, Repr

namespace Vocabulary

/-- How a service tells that it is up. -/
def serviceType : Vocabulary where
  key := "Type"
  words := ["simple", "exec", "forking", "oneshot", "dbus", "notify", "notify-reload", "idle"]

/-- When a service is started again. -/
def restartPolicy : Vocabulary where
  key := "Restart"
  words :=
    ["no", "on-success", "on-failure", "on-abnormal", "on-watchdog", "on-abort", "always"]

/-- Which processes of a unit are killed. -/
def killMode : Vocabulary where
  key := "KillMode"
  words := ["control-group", "process", "mixed", "none"]

/-- The greatest distance at which a word is still suggested. -/
def maxSlip : Nat := 2

/-- The number of edits between two texts. -/
def distance (a b : String) : Nat :=
  Text.editDistance a.toList b.toList

/-- The nearest of some words to a value, the first of them if several are as near. -/
def nearest? (value : String) : List String → Option String
  | [] => none
  | word :: words =>
    match nearest? value words with
    | none => some word
    | some other => if distance value word ≤ distance value other then some word else some other

/-- The word that a value was meant to be. Nothing is meant by the empty value. -/
def meant? (vocabulary : Vocabulary) (value : String) : Option String :=
  if value = "" then none
  else (nearest? value vocabulary.words).filter fun word => distance value word ≤ maxSlip

/-- Why a value is none of the words, if it is none. -/
def reject? (vocabulary : Vocabulary) (value : String) : Option Rejection :=
  let word := Text.trim value
  if word ∈ vocabulary.words then none
  else some (.notListed vocabulary.key vocabulary.words word (vocabulary.meant? word))

end Vocabulary

end UnitLint
