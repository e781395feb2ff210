import UnitLint.Idna.Composition.Table

/-!
# Canonical composition

The composed normal form of mapped text. Every character is taken apart into a base and its marks,
the marks behind a base are put in the order of their combining classes, and what can be composed
again is composed, marks of different classes not standing in each other's way.
-/

namespace UnitLint.Idna

/-- The combining class of a character; zero for one that starts a new unit. -/
def combiningClass (c : Char) : Nat :=
  ((combiningClasses.find? fun (_, ranges) =>
    Unicode.CodeRange.anyHolds ranges c.toNat).map Prod.fst).getD 0

namespace Hangul

/-- The first syllable. -/
def syllableBase : Nat := 0xAC00

/-- The first of the consonants that begin a syllable. -/
def leadBase : Nat := 0x1100

/-- The first of the vowels. -/
def vowelBase : Nat := 0x1161

/-- One before the first of the consonants that end a syllable, since a syllable need not have one.
-/
def tailBase : Nat := 0x11A7

/-- The number of consonants that begin a syllable. -/
def leadCount : Nat := 19

/-- The number of vowels. -/
def vowelCount : Nat := 21

/-- The number of ways to end a syllable. -/
def tailCount : Nat := 28

/-- The letters of a syllable. -/
def decompose? (c : Char) : Option (List Char) :=
  let index := c.toNat - syllableBase
  if syllableBase ≤ c.toNat ∧ index < leadCount * vowelCount * tailCount then
    let lead := Char.ofNat (leadBase + index / (vowelCount * tailCount))
    let vowel := Char.ofNat (vowelBase + index % (vowelCount * tailCount) / tailCount)
    let tail := index % tailCount
    some (if tail = 0 then [lead, vowel] else [lead, vowel, Char.ofNat (tailBase + tail)])
  else
    none

/-- The syllable of two letters, or of a syllable without a last letter and that letter. -/
def compose? (a b : Char) : Option Char :=
  let lead := a.toNat - leadBase
  let vowel := b.toNat - vowelBase
  let index := a.toNat - syllableBase
  let tail := b.toNat - tailBase
  if leadBase ≤ a.toNat ∧ lead < leadCount ∧ vowelBase ≤ b.toNat ∧ vowel < vowelCount then
    some (Char.ofNat (syllableBase + (lead * vowelCount + vowel) * tailCount))
  else if syllableBase ≤ a.toNat ∧ index < leadCount * vowelCount * tailCount ∧
      index % tailCount = 0 ∧ tailBase < b.toNat ∧ tail < tailCount then
    some (Char.ofNat (a.toNat + tail))
  else
    none

end Hangul

/-- The pair of which a listed character is composed. -/
def pairOf? (c : Char) : Option (Char × Char) :=
  match compositions.findSome? (·.imageOf? c.toNat) with
  | some [base, mark] => some (Char.ofNat base, Char.ofNat mark)
  | _ => none

/-- Takes a character apart at most `depth` times, each time splitting a mark off its base. -/
def decomposeChar : (depth : Nat) → Char → List Char
  | 0, c => [c]
  | depth + 1, c =>
    match pairOf? c with
    | some (base, mark) => decomposeChar depth base ++ [mark]
    | none => (Hangul.decompose? c).getD [c]

/-- No listed character carries more marks than this. -/
def maxMarks : Nat := 4

/-- Puts a character behind reversed text, in front of marks whose class is greater. -/
def insertByClass (c : Char) : List Char → List Char
  | [] => [c]
  | last :: rest =>
    if combiningClass c ≠ 0 ∧ combiningClass c < combiningClass last then
      last :: insertByClass c rest
    else
      c :: last :: rest

/-- Text taken apart, with the marks behind each base in the order of their classes. -/
def decompose (cs : List Char) : List Char :=
  ((cs.flatMap (decomposeChar maxMarks)).foldl (fun text c => insertByClass c text) []).reverse

/-- The character that two characters compose. -/
def compose? (a b : Char) : Option Char :=
  match Hangul.compose? a b with
  | some c => some c
  | none =>
    (compositions.find? (·.target = [a.toNat, b.toNat])).map fun entry => Char.ofNat entry.first

/-- Composes onwards from a base. Of the marks met since, the reversed `kept` could not be
composed, and `highest` is the class of the last of them. A mark reaches the base past marks of
smaller class only. -/
def composeFrom (base : Char) (kept : List Char) (highest : Nat) : List Char → List Char
  | [] => base :: kept.reverse
  | c :: cs =>
    let number := combiningClass c
    let composed? := if kept = [] ∨ highest < number then compose? base c else none
    match composed? with
    | some composed => composeFrom composed kept highest cs
    | none =>
      if number = 0 then base :: kept.reverse ++ composeFrom c [] 0 cs
      else composeFrom base (c :: kept) number cs

/-- The composed normal form. Marks in front of the first base stay as they are. -/
def normalize (cs : List Char) : List Char :=
  let text := decompose cs
  text.takeWhile (combiningClass · ≠ 0) ++
    match text.dropWhile (combiningClass · ≠ 0) with
    | [] => []
    | base :: rest => composeFrom base [] 0 rest

end UnitLint.Idna
