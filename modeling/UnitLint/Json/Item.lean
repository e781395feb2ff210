import UnitLint.Json.Reader

/-!
# Items of lists

A list whose items have different meanings is read item by item. Whoever reads it asks for as many
items as it may have, gets fewer if it ends before, and then takes its end.
-/

namespace UnitLint.Json

/-- Goes on to the next item of a list and tells whether there is one. The end is left in place. -/
def nextItem (isFirst : Bool) (cs : List Char) : Except Fault (Bool × List Char) :=
  match skipSpace cs with
  | [] => .error (.here .eofInList [])
  | c :: rest =>
    if c = ']' then .ok (false, c :: rest)
    else if isFirst then .ok (true, c :: rest)
    else if c = ',' then
      match skipSpace rest with
      | [] => .error (.here .eofInValue [])
      | c :: rest =>
        if c = ']' then .error (.next .trailingComma (c :: rest)) else .ok (true, c :: rest)
    else .error (.next .expectedListCommaOrEnd (c :: rest))

theorem nextItem_length_le {isFirst isItem : Bool} {cs rest : List Char}
    (h : nextItem isFirst cs = .ok (isItem, rest)) : rest.length ≤ cs.length := by
  have hle := skipSpace_length_le cs
  rw [nextItem] at h
  split at h
  · contradiction
  · next after heq =>
    rw [heq] at hle
    split at h
    · cases h
      exact hle
    · split at h
      · cases h
        exact hle
      · split at h
        · have hle' := skipSpace_length_le after
          rw [List.length_cons] at hle
          split at h
          · contradiction
          · next heq' =>
            rw [heq'] at hle'
            split at h
            · contradiction
            · cases h
              omega
        · contradiction

/-- Reads the next item of a list if there is one. -/
def Reader.readItem {α : Type} (item : Reader α) (isFirst : Bool) (cs : List Char) :
    Except Fault (Option α × List Char) :=
  match nextItem isFirst cs with
  | .error fault => .error fault
  | .ok (false, rest) => .ok (none, rest)
  | .ok (true, rest) => (item.read rest).map fun (value, rest) => (some value, rest)

theorem Reader.readItem_length_le {α : Type} {item : Reader α} {isFirst : Bool}
    {cs rest : List Char} {value? : Option α}
    (h : item.readItem isFirst cs = .ok (value?, rest)) : rest.length ≤ cs.length := by
  rw [readItem] at h
  split at h
  · contradiction
  · next hnext =>
    cases h
    exact nextItem_length_le hnext
  · next hnext =>
    obtain ⟨⟨_, _⟩, hvalue, heq⟩ := exists_of_map_eq_ok h
    cases heq
    exact Nat.le_trans (Nat.le_of_lt (item.length_lt hvalue)) (nextItem_length_le hnext)

/-- Reads the end of a list. -/
def closeList (cs : List Char) : Except Fault (List Char) :=
  match skipSpace cs with
  | [] => .error (.here .eofInList [])
  | c :: rest =>
    if c = ']' then .ok rest
    else if c = ',' then
      match skipSpace rest with
      | ']' :: rest => .error (.next .trailingComma (']' :: rest))
      | rest => .error (.next .trailingCharacters rest)
    else .error (.next .trailingCharacters (c :: rest))

theorem closeList_length_lt {cs rest : List Char} (h : closeList cs = .ok rest) :
    rest.length < cs.length := by
  have hle := skipSpace_length_le cs
  rw [closeList] at h
  split at h
  · contradiction
  · next heq =>
    rw [heq, List.length_cons] at hle
    split at h
    · cases h
      omega
    · split at h
      · split at h <;> contradiction
      · contradiction

end UnitLint.Json
