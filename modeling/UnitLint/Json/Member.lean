import UnitLint.Json.Reader

/-!
# Members of objects

An object is read member by member, in the order of the text. What is done with a member may depend
on its key and on the members before it.
-/

namespace UnitLint.Json

/-- Reads a key. -/
def readKey (cs : List Char) : Except Fault (Option String × List Char) :=
  match cs with
  | '"' :: rest => (readString rest).map fun (key, rest) => (some key, rest)
  | _ => .error (.next .keyNotString cs)

theorem readKey_length_lt {cs rest : List Char} {key? : Option String}
    (h : readKey cs = .ok (key?, rest)) : rest.length < cs.length := by
  unfold readKey at h
  split at h
  · obtain ⟨⟨text, after⟩, hstring, heq⟩ := exists_of_map_eq_ok h
    cases heq
    exact Nat.lt_succ_of_lt (readString_length_lt hstring)
  · contradiction

/-- Reads the next key of an object, or its end. -/
def nextKey (isFirst : Bool) (cs : List Char) : Except Fault (Option String × List Char) :=
  match skipSpace cs with
  | [] => .error (.here .eofInObject [])
  | c :: rest =>
    if c = '\x7d' then .ok (none, rest)
    else if isFirst then readKey (c :: rest)
    else if c = ',' then
      match skipSpace rest with
      | [] => .error (.here .eofInValue [])
      | c :: rest =>
        if c = '\x7d' then .error (.next .trailingComma (c :: rest)) else readKey (c :: rest)
    else .error (.next .expectedObjectCommaOrEnd (c :: rest))

theorem nextKey_length_lt {isFirst : Bool} {cs rest : List Char} {key? : Option String}
    (h : nextKey isFirst cs = .ok (key?, rest)) : rest.length < cs.length := by
  have hle := skipSpace_length_le cs
  rw [nextKey] at h
  split at h
  · contradiction
  · next after heq =>
    rw [heq, List.length_cons] at hle
    split at h
    · cases h
      omega
    · split at h
      · have := readKey_length_lt h
        rw [List.length_cons] at this
        omega
      · split at h
        · have hle' := skipSpace_length_le after
          split at h
          · contradiction
          · next heq' =>
            rw [heq'] at hle'
            split at h
            · contradiction
            · have := readKey_length_lt h
              omega
        · contradiction

/-- A way to take up the members of an object. Given what has been read before and a key, it reads
on behind the key. -/
structure MemberReader (σ : Type) where
  read : σ → String → List Char → Except Fault (σ × List Char)
  length_le : ∀ {before after : σ} {key : String} {cs rest : List Char},
    read before key cs = .ok (after, rest) → rest.length ≤ cs.length

/-- Reads the members of an object behind its opening, up to and with its end. -/
def readMembers {σ : Type} (member : MemberReader σ) (isFirst : Bool) (before : σ)
    (cs : List Char) : Except Fault (σ × List Char) :=
  match _hkey : nextKey isFirst cs with
  | .error fault => .error fault
  | .ok (none, rest) => .ok (before, rest)
  | .ok (some key, rest) =>
    match _hmember : member.read before key rest with
    | .error fault => .error fault
    | .ok (after, rest) => readMembers member false after rest
termination_by cs.length
decreasing_by exact Nat.lt_of_le_of_lt (member.length_le ‹_›) (nextKey_length_lt ‹_›)

theorem readMembers_length_lt {σ : Type} {member : MemberReader σ} {isFirst : Bool}
    {before after : σ} {cs rest : List Char}
    (h : readMembers member isFirst before cs = .ok (after, rest)) : rest.length < cs.length := by
  fun_induction readMembers member isFirst before cs with
  | case1 => contradiction
  | case2 _ _ _ _ hkey => cases h; exact nextKey_length_lt hkey
  | case3 => contradiction
  | case4 _ _ _ _ _ hkey _ _ hmember ih =>
    exact Nat.lt_trans (ih h) (Nat.lt_of_le_of_lt (member.length_le hmember)
      (nextKey_length_lt hkey))

/-- Reads a value behind a colon. -/
def Reader.readBehindColon {α : Type} (item : Reader α) (cs : List Char) :
    Except Fault (α × List Char) :=
  match skipColon cs with
  | .error fault => .error fault
  | .ok rest => item.read rest

theorem Reader.readBehindColon_length_lt {α : Type} {item : Reader α} {cs rest : List Char}
    {value : α} (h : item.readBehindColon cs = .ok (value, rest)) : rest.length < cs.length := by
  rw [readBehindColon] at h
  split at h
  · contradiction
  · next hcolon => exact Nat.lt_trans (item.length_lt h) (skipColon_length_lt hcolon)

/-- Takes up every member as a pair, the latest first. -/
def Reader.pair {α : Type} (item : Reader α) : MemberReader (List (String × α)) where
  read before key cs :=
    (item.readBehindColon cs).map fun (value, rest) => ((key, value) :: before, rest)
  length_le h := by
    obtain ⟨⟨value, rest⟩, hvalue, heq⟩ := exists_of_map_eq_ok h
    cases heq
    exact Nat.le_of_lt (item.readBehindColon_length_lt hvalue)

/-- Reads an object as the list of its members. -/
def Reader.readPairs {α : Type} (item : Reader α) (cs : List Char) :
    Except Fault (List (String × α) × List Char) :=
  match skipSpace cs with
  | [] => .error (.here .eofInValue [])
  | c :: rest =>
    if c = '\x7b' then
      (readMembers item.pair true [] rest).map fun (pairs, rest) => (pairs.reverse, rest)
    else
      .error (mismatch "a map" (c :: rest))

theorem Reader.readPairs_length_lt {α : Type} {item : Reader α} {cs rest : List Char}
    {pairs : List (String × α)} (h : item.readPairs cs = .ok (pairs, rest)) :
    rest.length < cs.length := by
  have hle := skipSpace_length_le cs
  rw [readPairs] at h
  split at h
  · contradiction
  · next heq =>
    rw [heq, List.length_cons] at hle
    split at h
    · obtain ⟨⟨members, after⟩, hmembers, heq⟩ := exists_of_map_eq_ok h
      cases heq
      have := readMembers_length_lt hmembers
      omega
    · contradiction

/-- The reader of objects whose members are all of one kind. Repeated keys are all kept. -/
def Reader.pairs {α : Type} (item : Reader α) : Reader (List (String × α)) :=
  ⟨item.readPairs, Reader.readPairs_length_lt⟩

end UnitLint.Json
