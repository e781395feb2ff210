import UnitLint.Json.Number

/-!
# Passing over values

Values that nobody asked for are passed over, however deep they nest. Only their form counts:
numbers may be of any size, and the halves of characters in strings need not pair up. The lists and
objects that are open at a point are kept as a list, the innermost first, so that no depth is too
great.
-/

namespace UnitLint.Json

/-- Passes over a value that is neither a list nor an object. -/
def skipScalar (cs : List Char) : Except Fault (List Char) :=
  match cs with
  | [] => .error (.here .eofInValue [])
  | 'n' :: rest => skipWord ['u', 'l', 'l'] rest
  | 't' :: rest => skipWord ['r', 'u', 'e'] rest
  | 'f' :: rest => skipWord ['a', 'l', 's', 'e'] rest
  | '"' :: rest => skipString rest
  | '-' :: rest => (readNumeral .invalidNumber true rest).map Prod.snd
  | c :: _ =>
    if Text.isDigit c then (readNumeral .invalidNumber false cs).map Prod.snd
    else .error (.next .expectedValue cs)

theorem readNumeral_map_snd_length_lt {eof : Cause} {isNegative : Bool} {cs rest : List Char}
    (h : (readNumeral eof isNegative cs).map Prod.snd = .ok rest) : rest.length < cs.length := by
  obtain ⟨⟨numeral, _⟩, hread, rfl⟩ := exists_of_map_eq_ok h
  exact readNumeral_length_lt hread

theorem skipScalar_length_lt {cs rest : List Char} (h : skipScalar cs = .ok rest) :
    rest.length < cs.length := by
  unfold skipScalar at h
  split at h
  · contradiction
  · exact Nat.lt_succ_of_le (skipWord_length_le h)
  · exact Nat.lt_succ_of_le (skipWord_length_le h)
  · exact Nat.lt_succ_of_le (skipWord_length_le h)
  · exact Nat.lt_succ_of_lt (skipString_length_lt h)
  · exact Nat.lt_succ_of_lt (readNumeral_map_snd_length_lt h)
  · split at h
    · exact readNumeral_map_snd_length_lt h
    · contradiction

/-- Something that is open. -/
inductive Frame where
  | list
  | object
  deriving DecidableEq, Repr

namespace Frame

/-- The character that ends it. -/
def closer : Frame → Char
  | list => ']'
  | object => '\x7d'

/-- What is wrong when the text ends inside. -/
def eof : Frame → Cause
  | list => .eofInList
  | object => .eofInObject

/-- What is wrong when something else than a comma or the end follows an item. -/
def expectedCommaOrEnd : Frame → Cause
  | list => .expectedListCommaOrEnd
  | object => .expectedObjectCommaOrEnd

end Frame

/-- What has to come next. -/
inductive Due where
  /-- A value. -/
  | value
  /-- Whatever may stand behind a value. -/
  | sequel
  deriving DecidableEq, Repr

/-- Passes over a member's key with its colon. -/
def skipKey (cs : List Char) : Except Fault (List Char) :=
  match skipSpace cs with
  | [] => .error (.here .eofInObject [])
  | c :: rest =>
    if c = '"' then
      match skipString rest with
      | .error fault => .error fault
      | .ok rest => skipColon rest
    else
      .error (.next .keyNotString (c :: rest))

theorem skipKey_length_lt {cs rest : List Char} (h : skipKey cs = .ok rest) :
    rest.length < cs.length := by
  have hle := skipSpace_length_le cs
  rw [skipKey] at h
  split at h
  · contradiction
  · next heq =>
    rw [heq, List.length_cons] at hle
    split at h
    · split at h
      · contradiction
      · next hstring =>
        have := skipString_length_lt hstring
        have := skipColon_length_lt h
        omega
    · contradiction

namespace Frame

/-- Passes over what stands in front of an item's value. -/
def skipLabel (frame : Frame) (cs : List Char) : Except Fault (List Char) :=
  match frame with
  | list => .ok cs
  | object => skipKey cs

theorem skipLabel_length_le {frame : Frame} {cs rest : List Char}
    (h : frame.skipLabel cs = .ok rest) : rest.length ≤ cs.length := by
  cases frame with
  | list => cases h; exact Nat.le_refl _
  | object => exact Nat.le_of_lt (skipKey_length_lt h)

/-- Goes on to the value of the next item. -/
def toItem (frame : Frame) (cs : List Char) : Except Fault (Due × List Char) :=
  (frame.skipLabel cs).map fun rest => (.value, rest)

theorem toItem_length_le {frame : Frame} {cs rest : List Char} {due : Due}
    (h : frame.toItem cs = .ok (due, rest)) : rest.length ≤ cs.length := by
  rw [toItem] at h
  obtain ⟨after, hlabel, heq⟩ := exists_of_map_eq_ok h
  cases heq
  exact skipLabel_length_le hlabel

/-- Goes on from the opening to the value of the first item or behind the end. -/
def enter (frame : Frame) (cs : List Char) : Except Fault (Due × List Char) :=
  match skipSpace cs with
  | [] => .error (.here frame.eof [])
  | c :: rest => if c = frame.closer then .ok (.sequel, rest) else frame.toItem (c :: rest)

theorem enter_length_le {frame : Frame} {cs rest : List Char} {due : Due}
    (h : frame.enter cs = .ok (due, rest)) : rest.length ≤ cs.length := by
  have hle := skipSpace_length_le cs
  rw [enter] at h
  split at h
  · contradiction
  · next heq =>
    rw [heq, List.length_cons] at hle
    split at h
    · cases h
      omega
    · have := toItem_length_le h
      rw [List.length_cons] at this
      omega

/-- Goes on from an item to the value of the next one or behind the end. -/
def proceed (frame : Frame) (cs : List Char) : Except Fault (Due × List Char) :=
  match skipSpace cs with
  | [] => .error (.here frame.eof [])
  | c :: rest =>
    if c = ',' then frame.toItem rest
    else if c = frame.closer then .ok (.sequel, rest)
    else .error (.next frame.expectedCommaOrEnd (c :: rest))

theorem proceed_length_lt {frame : Frame} {cs rest : List Char} {due : Due}
    (h : frame.proceed cs = .ok (due, rest)) : rest.length < cs.length := by
  have hle := skipSpace_length_le cs
  rw [proceed] at h
  split at h
  · contradiction
  · next heq =>
    rw [heq, List.length_cons] at hle
    split at h
    · have := toItem_length_le h
      omega
    · split at h
      · cases h
        omega
      · contradiction

end Frame

/-- The frames that are open when `due` is what comes next in a frame. -/
def Due.push (due : Due) (frame : Frame) (frames : List Frame) : List Frame :=
  match due with
  | value => frame :: frames
  | sequel => frames

/-- The frame that a character opens, if it opens one. -/
def opening? (c : Char) : Option Frame :=
  if c = '[' then some .list else if c = '\x7b' then some .object else none

/-- Passes over all that is left of the open frames, and over a value in front of it if one is
due. -/
def skipFrames (due : Due) (frames : List Frame) (cs : List Char) : Except Fault (List Char) :=
  match due, frames with
  | .sequel, [] => .ok cs
  | .sequel, frame :: frames =>
    match _h : frame.proceed cs with
    | .error fault => .error fault
    | .ok (due, rest) => skipFrames due (due.push frame frames) rest
  | .value, frames =>
    match _hspace : skipSpace cs with
    | [] => .error (.here .eofInValue [])
    | c :: token =>
      match opening? c with
      | some frame =>
        match _h : frame.enter token with
        | .error fault => .error fault
        | .ok (due, rest) => skipFrames due (due.push frame frames) rest
      | none =>
        match _h : skipScalar (c :: token) with
        | .error fault => .error fault
        | .ok rest => skipFrames .sequel frames rest
termination_by cs.length
decreasing_by
  · exact Frame.proceed_length_lt ‹_›
  · have hle := skipSpace_length_le cs
    rw [_hspace, List.length_cons] at hle
    exact Nat.lt_of_le_of_lt (Frame.enter_length_le ‹_›) hle
  · have hle := skipSpace_length_le cs
    rw [_hspace] at hle
    exact Nat.lt_of_lt_of_le (skipScalar_length_lt ‹_›) hle

/-- Passes over a value. -/
def skipValue (cs : List Char) : Except Fault (List Char) :=
  skipFrames .value [] cs

theorem skipFrames_length_le {due : Due} {frames : List Frame} {cs rest : List Char}
    (h : skipFrames due frames cs = .ok rest) : rest.length ≤ cs.length := by
  fun_induction skipFrames due frames cs with
  | case1 => cases h; exact Nat.le_refl _
  | case2 => contradiction
  | case3 _ _ _ _ _ hproceed ih =>
    exact Nat.le_trans (ih h) (Nat.le_of_lt (Frame.proceed_length_lt hproceed))
  | case4 => contradiction
  | case5 => contradiction
  | case6 cs _ _ _ hspace _ _ _ _ henter ih =>
    have hle := skipSpace_length_le cs
    rw [hspace, List.length_cons] at hle
    have := Frame.enter_length_le henter
    have := ih h
    omega
  | case7 => contradiction
  | case8 cs _ _ _ hspace _ _ hscalar ih =>
    have hle := skipSpace_length_le cs
    rw [hspace] at hle
    have := skipScalar_length_lt hscalar
    have := ih h
    omega

theorem skipValue_length_lt {cs rest : List Char} (h : skipValue cs = .ok rest) :
    rest.length < cs.length := by
  have hle := skipSpace_length_le cs
  rw [skipValue] at h
  rw [skipFrames] at h
  split at h
  · contradiction
  · next heq =>
    rw [heq, List.length_cons] at hle
    split at h
    · split at h
      · contradiction
      · next henter =>
        have := Frame.enter_length_le henter
        have := skipFrames_length_le h
        omega
    · split at h
      · contradiction
      · next hscalar =>
        have := skipScalar_length_lt hscalar
        have := skipFrames_length_le h
        rw [List.length_cons] at *
        omega

end UnitLint.Json
