import UnitLint.Json.Fault
import UnitLint.Text.Digit

/-!
# Tokens of JSON text

Readers for the smallest parts of JSON text. A reader takes the text still to be read and gives what
it has read with the text behind it, or the fault it met. Strings can be read for what they say or
merely be passed over; passing over checks the form of escapes but not whether surrogates pair up.
-/

namespace UnitLint.Json

/-- What a mapped result was before it was mapped. -/
theorem exists_of_map_eq_ok {α β : Type} {f : α → β} {result : Except Fault α} {b : β}
    (h : result.map f = .ok b) : ∃ a, result = .ok a ∧ f a = b := by
  cases result with
  | error => contradiction
  | ok a => exact ⟨a, rfl, Except.ok.inj h⟩

/-- Whether a character may stand between tokens. -/
def isSpace (c : Char) : Bool := c == ' ' || c == '\n' || c == '\t' || c == '\r'

/-- The text from its first token on. -/
def skipSpace (cs : List Char) : List Char := cs.dropWhile isSpace

theorem skipSpace_length_le (cs : List Char) : (skipSpace cs).length ≤ cs.length :=
  (List.dropWhile_sublist isSpace).length_le

/-- Removes the rest of a word whose first letter has been read. -/
def skipWord : (letters : List Char) → List Char → Except Fault (List Char)
  | [], cs => .ok cs
  | _ :: _, [] => .error (.here .eofInValue [])
  | letter :: letters, c :: cs =>
    if c = letter then skipWord letters cs else .error (.next .expectedIdent (c :: cs))

theorem skipWord_length_le {letters cs rest : List Char} (h : skipWord letters cs = .ok rest) :
    rest.length ≤ cs.length := by
  induction letters generalizing cs with
  | nil => simp_all [skipWord]
  | cons letter letters ih =>
    cases cs with
    | nil => simp [skipWord] at h
    | cons c cs =>
      rw [skipWord] at h
      split at h
      · exact Nat.le_succ_of_le (ih h)
      · contradiction

/-- Removes the colon between a key and its value. -/
def skipColon (cs : List Char) : Except Fault (List Char) :=
  match skipSpace cs with
  | ':' :: rest => .ok rest
  | [] => .error (.here .eofInObject [])
  | rest => .error (.next .expectedColon rest)

theorem skipColon_length_lt {cs rest : List Char} (h : skipColon cs = .ok rest) :
    rest.length < cs.length := by
  have hle := skipSpace_length_le cs
  rw [skipColon] at h
  split at h
  · next heq =>
    rw [heq] at hle
    cases h
    exact hle
  · contradiction
  · contradiction

/-- The fault of an escape whose four bytes are missing or no hexadecimal digits. -/
def badHex (cs : List Char) : Fault :=
  if Text.byteLength cs < 4 then ⟨.eofInString, 0⟩
  else ⟨.invalidEscape, Text.byteLength cs - 4⟩

/-- Reads the four hexadecimal digits of an escape. -/
def readHex (cs : List Char) : Except Fault (Nat × List Char) :=
  match cs with
  | a :: b :: c :: d :: rest =>
    match Text.numeral? 16 [a, b, c, d] with
    | some code => .ok (code, rest)
    | none => .error (badHex cs)
  | _ => .error (badHex cs)

theorem readHex_length_lt {cs rest : List Char} {code : Nat} (h : readHex cs = .ok (code, rest)) :
    rest.length < cs.length := by
  unfold readHex at h
  split at h
  · split at h
    · cases h
      simp only [List.length_cons]
      omega
    · contradiction
  · contradiction

/-- Whether a number is the first half of a character beyond the basic plane. -/
def isLeadSurrogate (code : Nat) : Bool := 0xD800 ≤ code && code ≤ 0xDBFF

/-- Whether a number is the second half of a character beyond the basic plane. -/
def isTrailSurrogate (code : Nat) : Bool := 0xDC00 ≤ code && code ≤ 0xDFFF

/-- The character of two surrogates. -/
def surrogatePair (lead trail : Nat) : Char :=
  Char.ofNat (0x10000 + (lead - 0xD800) * 0x400 + (trail - 0xDC00))

/-- The fault of a missing second half, met at the front of the text. -/
def noTrail (cs : List Char) : Fault :=
  if cs = [] then .here .eofInString [] else .next .unfinishedSurrogate cs

/-- Removes the `\u` in front of the digits of a second half. -/
def skipTrailMark : List Char → Except Fault (List Char)
  | [] => .error (noTrail [])
  | c :: cs =>
    if c ≠ '\\' then .error (noTrail (c :: cs))
    else
      match cs with
      | [] => .error (noTrail [])
      | d :: rest => if d = 'u' then .ok rest else .error (noTrail (d :: rest))

theorem skipTrailMark_length_lt {cs rest : List Char} (h : skipTrailMark cs = .ok rest) :
    rest.length < cs.length := by
  unfold skipTrailMark at h
  split at h
  · contradiction
  · split at h
    · contradiction
    · split at h
      · contradiction
      · split at h
        · cases h
          simp only [List.length_cons]
          omega
        · contradiction

/-- Reads the second half of a character beyond the basic plane. -/
def readTrail (lead : Nat) (cs : List Char) : Except Fault (Char × List Char) :=
  match skipTrailMark cs with
  | .error fault => .error fault
  | .ok digits =>
    match readHex digits with
    | .error fault => .error fault
    | .ok (trail, rest) =>
      if isTrailSurrogate trail then .ok (surrogatePair lead trail, rest)
      else .error (.here .loneSurrogate rest)

theorem readTrail_length_lt {lead : Nat} {cs rest : List Char} {c : Char}
    (h : readTrail lead cs = .ok (c, rest)) : rest.length < cs.length := by
  rw [readTrail] at h
  split at h
  · contradiction
  · next hmark =>
    split at h
    · contradiction
    · next hhex =>
      split at h
      · simp only [Except.ok.injEq, Prod.mk.injEq] at h
        exact h.2 ▸ Nat.lt_trans (readHex_length_lt hhex) (skipTrailMark_length_lt hmark)
      · contradiction

/-- Reads the digits of a `\u` escape, and a second escape if the first is half a character. -/
def readUnicode (cs : List Char) : Except Fault (Char × List Char) :=
  match readHex cs with
  | .error fault => .error fault
  | .ok (code, rest) =>
    if isTrailSurrogate code then .error (.here .loneSurrogate rest)
    else if isLeadSurrogate code then readTrail code rest
    else .ok (Char.ofNat code, rest)

theorem readUnicode_length_lt {cs rest : List Char} {c : Char}
    (h : readUnicode cs = .ok (c, rest)) : rest.length < cs.length := by
  rw [readUnicode] at h
  split at h
  · contradiction
  · next hhex =>
    have hlt := readHex_length_lt hhex
    split at h
    · contradiction
    · split at h
      · exact Nat.lt_trans (readTrail_length_lt h) hlt
      · cases h
        exact hlt

/-- The character that a letter stands for behind a backslash, if it is one of the short escapes. -/
def shortEscape? (c : Char) : Option Char :=
  match c with
  | '"' => some '"'
  | '\\' => some '\\'
  | '/' => some '/'
  | 'b' => some '\x08'
  | 'f' => some '\x0c'
  | 'n' => some '\n'
  | 'r' => some '\r'
  | 't' => some '\t'
  | _ => none

/-- Reads an escape behind its backslash. -/
def readEscape (cs : List Char) : Except Fault (Char × List Char) :=
  match cs with
  | [] => .error (.here .eofInString [])
  | 'u' :: rest => readUnicode rest
  | c :: rest =>
    match shortEscape? c with
    | some escaped => .ok (escaped, rest)
    | none => .error (.next .invalidEscape cs)

theorem readEscape_length_lt {cs rest : List Char} {c : Char}
    (h : readEscape cs = .ok (c, rest)) : rest.length < cs.length := by
  unfold readEscape at h
  split at h
  · contradiction
  · exact Nat.lt_succ_of_lt (readUnicode_length_lt h)
  · split at h
    · cases h
      simp
    · contradiction

/-- Reads a string behind its opening quote. The characters read so far are in `read`, the latest
first. -/
def readStringFrom (read : List Char) (cs : List Char) : Except Fault (String × List Char) :=
  match cs with
  | [] => .error (.here .eofInString [])
  | '"' :: rest => .ok (String.ofList read.reverse, rest)
  | '\\' :: rest =>
    match _h : readEscape rest with
    | .error fault => .error fault
    | .ok (c, rest) => readStringFrom (c :: read) rest
  | c :: rest =>
    if c < ' ' then .error (.next .controlCharacter cs) else readStringFrom (c :: read) rest
termination_by cs.length
decreasing_by
  · exact Nat.lt_succ_of_lt (readEscape_length_lt ‹_›)
  · simp

/-- Reads a string behind its opening quote. -/
def readString (cs : List Char) : Except Fault (String × List Char) :=
  readStringFrom [] cs

theorem readStringFrom_length_lt {read cs rest : List Char} {text : String}
    (h : readStringFrom read cs = .ok (text, rest)) : rest.length < cs.length := by
  fun_induction readStringFrom read cs with
  | case1 => contradiction
  | case2 => cases h; simp
  | case3 => contradiction
  | case4 read rest' c rest'' hescape ih =>
    exact Nat.lt_trans (ih h) (Nat.lt_succ_of_lt (readEscape_length_lt hescape))
  | case5 => contradiction
  | case6 _ _ _ _ _ _ ih => exact Nat.lt_succ_of_lt (ih h)

theorem readString_length_lt {cs rest : List Char} {text : String}
    (h : readString cs = .ok (text, rest)) : rest.length < cs.length :=
  readStringFrom_length_lt h

/-- Passes over an escape behind its backslash. -/
def skipEscape (cs : List Char) : Except Fault (List Char) :=
  match cs with
  | [] => .error (.here .eofInString [])
  | 'u' :: rest => (readHex rest).map Prod.snd
  | c :: rest => if (shortEscape? c).isSome then .ok rest else .error (.next .invalidEscape cs)

theorem skipEscape_length_lt {cs rest : List Char} (h : skipEscape cs = .ok rest) :
    rest.length < cs.length := by
  unfold skipEscape at h
  split at h
  · contradiction
  · obtain ⟨⟨code, _⟩, hhex, rfl⟩ := exists_of_map_eq_ok h
    exact Nat.lt_succ_of_lt (readHex_length_lt hhex)
  · split at h
    · cases h
      simp
    · contradiction

/-- Passes over a string behind its opening quote. -/
def skipString (cs : List Char) : Except Fault (List Char) :=
  match cs with
  | [] => .error (.here .eofInString [])
  | '"' :: rest => .ok rest
  | '\\' :: rest =>
    match _h : skipEscape rest with
    | .error fault => .error fault
    | .ok rest => skipString rest
  | c :: rest => if c < ' ' then .error (.here .controlCharacter cs) else skipString rest
termination_by cs.length
decreasing_by
  · exact Nat.lt_succ_of_lt (skipEscape_length_lt ‹_›)
  · simp

theorem skipString_length_lt {cs rest : List Char} (h : skipString cs = .ok rest) :
    rest.length < cs.length := by
  fun_induction skipString cs with
  | case1 => contradiction
  | case2 => cases h; simp
  | case3 => contradiction
  | case4 rest' rest'' hescape ih =>
    exact Nat.lt_trans (ih h) (Nat.lt_succ_of_lt (skipEscape_length_lt hescape))
  | case5 => contradiction
  | case6 _ _ _ _ _ ih => exact Nat.lt_succ_of_lt (ih h)

end UnitLint.Json
