import UnitLint.Text.Digit

/-!
# Punycode

The reading half of the ASCII form of a label: the basic characters stand in front, and after the
last hyphen a row of base-36 numbers tells which characters to insert where. Each number gives the
distance from the last insertion, counted through all places and then all code points; its digits
are weighed by thresholds that adapt to the numbers before.

Arithmetic is that of 32-bit words: a distance or a weight that does not fit is an error.
-/

namespace UnitLint.Idna.Punycode

/-- The bound of distances and weights: one past the largest word of 32 bits. -/
def wordLimit : Nat := 0x100000000

/-- The value of a digit: letters of either case are 0 to 25, the decimal digits 26 to 35. -/
def digit? (c : Char) : Option Nat :=
  if Text.isDigit c then some (c.toNat - '0'.toNat + 26)
  else (Text.digit? 36 c).map (· - 10)

/-- The threshold below which the digit at position `place` is the last of its number. -/
def threshold (place bias : Nat) : Nat :=
  if place ≤ bias then 1 else if bias + 26 ≤ place then 26 else place - bias

/-- Divides a distance down to the range of one digit and counts 36 for every division. -/
def scaleDown (distance places : Nat) : Nat × Nat :=
  if 455 < distance then scaleDown (distance / 35) (places + 36) else (distance, places)
termination_by distance
decreasing_by omega

/-- The bias for the next number, from the distance just read and the length reached. -/
def adapt (distance length : Nat) (isFirst : Bool) : Nat :=
  let distance := if isFirst then distance / 700 else distance / 2
  let (distance, places) := scaleDown (distance + distance / length) 0
  places + 36 * distance / (distance + 38)

/-- Reads one number and adds it to `place`. Gives the sum and the characters after the number. -/
def readDistance (bias place weight position : Nat) : List Char → Option (Nat × List Char)
  | [] => none
  | c :: cs => do
    let digit ← digit? c
    let place := place + digit * weight
    if wordLimit ≤ place then none
    else
      let bound := threshold position bias
      if digit < bound then some (place, cs)
      else
        let weight := weight * (36 - bound)
        if wordLimit ≤ weight then none
        else readDistance bias place weight (position + 36) cs

theorem readDistance_shorter {bias place weight position sum : Nat} {cs rest : List Char}
    (h : readDistance bias place weight position cs = some (sum, rest)) :
    rest.length < cs.length := by
  induction cs generalizing place weight position with
  | nil => simp [readDistance] at h
  | cons c cs ih =>
    rw [readDistance, Option.bind_eq_bind, Option.bind_eq_some_iff] at h
    obtain ⟨digit, -, h⟩ := h
    simp only [] at h
    split at h
    · contradiction
    · split at h
      · simp only [Option.some.injEq, Prod.mk.injEq] at h
        simp [h.2]
      · split at h
        · contradiction
        · exact Nat.lt_succ_of_lt (ih h)

/-- Performs the insertions that the numbers in `cs` describe. The next one is sought from place
`place` and code point `code` on. -/
def insertAll (code place bias : Nat) (label cs : List Char) : Option (List Char) :=
  match cs with
  | [] => some label
  | c :: cs =>
    match _h : readDistance bias place 1 36 (c :: cs) with
    | none => none
    | some (sum, rest) =>
      let length := label.length + 1
      let code := code + sum / length
      if code.isValidChar then
        let spot := sum % length
        insertAll code (spot + 1) (adapt (sum - place) length (place == 0))
          (label.insertIdx spot (Char.ofNat code)) rest
      else
        none
termination_by cs.length
decreasing_by exact readDistance_shorter ‹_›

/-- The label that a Punycode text stands for, basic letters in lower case. A hyphen in front of
everything else delimits nothing and is no digit either. -/
def decode? (cs : List Char) : Option (List Char) :=
  let backwards := cs.reverse
  let numbers := (backwards.takeWhile (· ≠ '-')).reverse
  let basic := ((backwards.dropWhile (· ≠ '-')).drop 1).reverse
  if basic = [] ∧ '-' ∈ cs then none
  else insertAll 128 0 72 (basic.map Char.toLower) numbers

end UnitLint.Idna.Punycode
