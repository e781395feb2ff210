import UnitLint.Decimal.Notation
import UnitLint.Decimal.Reading
import UnitLint.Json.Scan

/-!
# Numbers of JSON text

The parts of a number as it is written, and the number that the parts stand for: a 64-bit integer,
signed or not, or else a double.
-/

namespace UnitLint.Json

/-- The parts of a number: whole digits, digits behind a point, and an exponent with its sign. -/
structure Numeral where
  isNegative : Bool
  whole : List Char
  fraction : List Char
  exponent? : Option (Bool × List Char)
  deriving DecidableEq, Repr

/-- Reads the digits in front of the point. A leading zero stands alone. The cause `eof` is given
where the text ends too early. -/
def readWhole (eof : Cause) : List Char → Except Fault (List Char × List Char)
  | [] => .error (.here eof [])
  | c :: cs =>
    if c = '0' then
      match cs.takeWhile Text.isDigit with
      | [] => .ok ([c], cs)
      | _ => .error (.next .invalidNumber cs)
    else if Text.isDigit c then .ok (c :: cs.takeWhile Text.isDigit, cs.dropWhile Text.isDigit)
    else .error (.next .invalidNumber (c :: cs))

/-- Reads some digits, at least one. -/
def readDigits (eof : Cause) (cs : List Char) : Except Fault (List Char × List Char) :=
  match cs.takeWhile Text.isDigit with
  | [] => .error (if cs = [] then .here eof [] else .next .invalidNumber cs)
  | digits => .ok (digits, cs.dropWhile Text.isDigit)

/-- Reads a point and the digits behind it, if there is a point. -/
def readFraction (eof : Cause) (cs : List Char) : Except Fault (List Char × List Char) :=
  match cs with
  | '.' :: rest => readDigits eof rest
  | _ => .ok ([], cs)

/-- Removes a sign, and tells whether it was a minus. -/
def takeSign : List Char → Bool × List Char
  | '+' :: cs => (false, cs)
  | '-' :: cs => (true, cs)
  | cs => (false, cs)

/-- Reads an exponent, if there is one. -/
def readExponent (eof : Cause) (cs : List Char) :
    Except Fault (Option (Bool × List Char) × List Char) :=
  match cs with
  | [] => .ok (none, [])
  | c :: rest =>
    if c = 'e' ∨ c = 'E' then
      let (isNegative, rest) := takeSign rest
      match readDigits eof rest with
      | .error fault => .error fault
      | .ok (digits, rest) => .ok (some (isNegative, digits), rest)
    else
      .ok (none, cs)

/-- Reads a number whose sign has been read. -/
def readNumeral (eof : Cause) (isNegative : Bool) (cs : List Char) :
    Except Fault (Numeral × List Char) :=
  match readWhole eof cs with
  | .error fault => .error fault
  | .ok (whole, cs) =>
    match readFraction eof cs with
    | .error fault => .error fault
    | .ok (fraction, cs) =>
      match readExponent eof cs with
      | .error fault => .error fault
      | .ok (exponent?, cs) => .ok (⟨isNegative, whole, fraction, exponent?⟩, cs)

theorem readWhole_length_lt {eof : Cause} {cs digits rest : List Char}
    (h : readWhole eof cs = .ok (digits, rest)) : rest.length < cs.length := by
  unfold readWhole at h
  split at h
  · contradiction
  · next c cs =>
    have := (List.dropWhile_sublist Text.isDigit (l := cs)).length_le
    split at h
    · split at h
      · cases h
        simp
      · contradiction
    · split at h
      · simp only [Except.ok.injEq, Prod.mk.injEq] at h
        simp only [← h.2, List.length_cons]
        omega
      · contradiction

theorem readDigits_length_le {eof : Cause} {cs digits rest : List Char}
    (h : readDigits eof cs = .ok (digits, rest)) : rest.length ≤ cs.length := by
  rw [readDigits] at h
  split at h
  · contradiction
  · simp only [Except.ok.injEq, Prod.mk.injEq] at h
    exact h.2 ▸ (List.dropWhile_sublist Text.isDigit).length_le

theorem readFraction_length_le {eof : Cause} {cs digits rest : List Char}
    (h : readFraction eof cs = .ok (digits, rest)) : rest.length ≤ cs.length := by
  unfold readFraction at h
  split at h
  · exact Nat.le_succ_of_le (readDigits_length_le h)
  · cases h
    simp

theorem takeSign_length_le (cs : List Char) : (takeSign cs).2.length ≤ cs.length := by
  unfold takeSign
  split <;> simp

theorem readExponent_length_le {eof : Cause} {cs rest : List Char}
    {exponent? : Option (Bool × List Char)}
    (h : readExponent eof cs = .ok (exponent?, rest)) : rest.length ≤ cs.length := by
  unfold readExponent at h
  split at h
  · cases h
    simp
  · next c after =>
    have := takeSign_length_le after
    split at h
    · simp only [] at h
      split at h
      · contradiction
      · next hdigits =>
        have := readDigits_length_le hdigits
        cases h
        simp only [List.length_cons]
        omega
    · cases h
      simp

theorem readNumeral_length_lt {eof : Cause} {isNegative : Bool} {cs rest : List Char}
    {numeral : Numeral} (h : readNumeral eof isNegative cs = .ok (numeral, rest)) :
    rest.length < cs.length := by
  rw [readNumeral] at h
  split at h
  · contradiction
  · next hwhole =>
    split at h
    · contradiction
    · next hfraction =>
      split at h
      · contradiction
      · next hexponent =>
        have := readWhole_length_lt hwhole
        have := readFraction_length_le hfraction
        have := readExponent_length_le hexponent
        cases h
        omega

/-- One past the greatest unsigned integer. -/
def unsignedLimit : Nat := 0x10000000000000000

/-- The magnitude of the least signed integer. -/
def signedLimit : Nat := 0x8000000000000000

/-- The greatest exponent that is read. -/
def maxExponent : Nat := 0x7fffffff

/-- Appends digits to a significand while it stays an unsigned integer. Gives the significand and
the digits left over. -/
def accumulate (significand : Nat) : List Char → Nat × List Char
  | [] => (significand, [])
  | c :: cs =>
    let longer := significand * 10 + (Text.digit? 10 c).getD 0
    if longer < unsignedLimit then accumulate longer cs else (significand, c :: cs)

/-- Reads the digits of an exponent. Gives the digits behind the one at which it passes the
greatest exponent, if it does. -/
def accumulateExponent (exponent : Nat) : List Char → Except (List Char) Nat
  | [] => .ok exponent
  | c :: cs =>
    let longer := exponent * 10 + (Text.digit? 10 c).getD 0
    if longer ≤ maxExponent then accumulateExponent longer cs else .error cs

/-- The double of a number with its sign. -/
def signedFloat (isNegative : Bool) (value : Float) : Found :=
  .float (Decimal.floatText (if isNegative then -value else value))

/-- What a number is, for a message. The text behind the number serves to place the fault of a
number out of range. -/
def Numeral.found (numeral : Numeral) (rest : List Char) : Except Fault Found :=
  let (significand, dropped) := accumulate 0 numeral.whole
  let isWhole := dropped = [] ∧ numeral.fraction = [] ∧ numeral.exponent? = none
  if isWhole ∧ ¬ numeral.isNegative then .ok (.integer significand)
  else if isWhole ∧ 0 < significand ∧ significand ≤ signedLimit then
    .ok (.integer (-(significand : Int)))
  else
    let (significand, ignored) := accumulate significand numeral.fraction
    let shift : Int := dropped.length - (numeral.fraction.length - ignored.length : Nat)
    let place (exponent : Int) : Except Fault Found :=
      match Decimal.readFloat? significand exponent with
      | some value => .ok (signedFloat numeral.isNegative value)
      | none => .error (.here .numberOutOfRange rest)
    match numeral.exponent? with
    | none => place shift
    | some (isNegative, digits) =>
      match accumulateExponent 0 digits with
      | .ok exponent => place (if isNegative then shift - exponent else shift + exponent)
      | .error unread =>
        if significand ≠ 0 ∧ ¬ isNegative then
          .error (.here .numberOutOfRange (unread ++ rest))
        else
          .ok (signedFloat numeral.isNegative 0)

end UnitLint.Json
