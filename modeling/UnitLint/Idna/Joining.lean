import UnitLint.Idna.Composition
import UnitLint.Idna.Joining.Table

/-!
# Joiners

A zero-width joiner or non-joiner is invisible, so it may stand only where it changes how the
letters around it are drawn: after a virama, or, for the non-joiner, between two letters that
would join.
-/

namespace UnitLint.Idna

/-- The combining class of a virama, the sign that suppresses a consonant's vowel. -/
def viramaClass : Nat := 9

/-- Whether, looking through transparent characters, the next one has one of the given types. -/
def joinsWith (types : List Unicode.CodeRange) : List Char → Bool
  | [] => false
  | c :: cs =>
    Unicode.CodeRange.anyHolds types c.toNat ||
      (Unicode.CodeRange.anyHolds transparentJoining c.toNat && joinsWith types cs)

/-- Whether every joiner of a label stands where it may. The characters before the present one are
in `before`, the nearest first. -/
def joinersPlaced (before : List Char) : List Char → Bool
  | [] => true
  | c :: after =>
    let placed :=
      if c = '\u200c' ∨ c = '\u200d' then
        match before with
        | [] => false
        | previous :: _ =>
          combiningClass previous == viramaClass ||
            (c == '\u200c' && joinsWith (leftJoining ++ dualJoining) before &&
              joinsWith (rightJoining ++ dualJoining) after)
      else
        true
    placed && joinersPlaced (c :: before) after

end UnitLint.Idna
