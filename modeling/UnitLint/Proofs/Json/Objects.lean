import UnitLint.Json.Member
import UnitLint.Proofs.Json.Strings

/-!
# Reading objects

A reader reads all spellings of its values if it gives the value and stops right behind its text,
whatever follows. Objects of such values are read in the same way: one lemma tells what a single
member does to what has been read before, and an induction on the members does the rest. The lemma
is not tied to lists of pairs, so it also serves readers that take up members in their own way.
-/

namespace UnitLint.Json

variable {α σ : Type} {spells : α → List Char → Prop}

/-- A reader gives the value of each of its spellings and stops behind it. -/
def Reader.Reads (reader : Reader α) (spells : α → List Char → Prop) : Prop :=
  ∀ ⦃value form⦄, spells value form → ∀ spacing, IsSpacing spacing → ∀ rest,
    reader.read (spacing ++ form ++ rest) = .ok (value, rest)

/-! ## Texts -/

/-- A text that spells a value, with white space around it, is read as that value. -/
theorem Reader.Reads.readText {reader : Reader α} (h : reader.Reads spells) {value : α}
    {before form behind : List Char} (hbefore : IsSpacing before) (hform : spells value form)
    (hbehind : IsSpacing behind) {text : String} (htext : text.toList = before ++ form ++ behind) :
    reader.readText text = .ok value := by
  have hend : skipSpace behind = [] := by
    simpa [skipSpace] using skipSpace_spacing_append hbehind []
  rw [Reader.readText, readWhole, htext, h hform before hbefore]
  simp [hend, Except.mapError]

/-! ## Strings that may be absent -/

theorem nullableString_reads : nullableString.Reads SpellsNullable := by
  intro text? form hform spacing hspacing rest
  change readNullableString (spacing ++ form ++ rest) = .ok (text?, rest)
  cases hform with
  | null =>
    rw [readNullableString, List.append_assoc, List.cons_append,
      skipSpace_spacing_cons hspacing (by decide)]
    rfl
  | string hstring =>
    obtain ⟨inner, rfl, hread⟩ := hstring.exists_readString
    rw [readNullableString, List.append_assoc, List.cons_append,
      skipSpace_spacing_cons hspacing (by decide)]
    simp [hread, Except.map]

/-! ## Members -/

theorem Reader.Reads.readBehindColon {item : Reader α} (h : item.Reads spells) {value : α}
    {tail : List Char} (htail : SpellsBehindKey spells value tail) (rest : List Char) :
    item.readBehindColon (tail ++ rest) = .ok (value, rest) := by
  obtain ⟨hbefore, hbehind, hform⟩ := htail
  rw [Reader.readBehindColon, List.append_assoc, List.append_assoc, List.cons_append,
    skipColon_spacing hbefore]
  simpa using h hform _ hbehind rest

theorem readKey_spelled {key : String} {name : List Char} (h : SpellsString key name)
    (rest : List Char) : readKey (name ++ rest) = .ok (some key, rest) := by
  obtain ⟨inner, rfl, hread⟩ := h.exists_readString
  simp [readKey, hread, Except.map]

/-- What stands before a member: nothing before the first one, a comma before any other. -/
inductive SpellsOpening : Bool → List Char → Prop where
  | first : SpellsOpening true []
  | comma {spacing : List Char} (hspacing : IsSpacing spacing) :
      SpellsOpening false (spacing ++ [','])

theorem nextKey_spelled {isFirst : Bool} {opening before name : List Char} {key : String}
    (hopening : SpellsOpening isFirst opening) (hbefore : IsSpacing before)
    (hname : SpellsString key name) (rest : List Char) :
    nextKey isFirst (opening ++ (before ++ (name ++ rest))) = .ok (some key, rest) := by
  have hkey := readKey_spelled hname rest
  obtain ⟨inner, rfl, -⟩ := hname.exists_readString
  rw [List.cons_append] at hkey ⊢
  cases hopening with
  | first =>
    rw [nextKey, List.nil_append, skipSpace_spacing_cons hbefore (by decide)]
    simpa using hkey
  | comma hspacing =>
    rw [nextKey, List.append_assoc, List.singleton_append,
      skipSpace_spacing_cons hspacing (by decide)]
    simpa [skipSpace_spacing_cons hbefore (c := '"') (by decide)] using hkey

theorem nextKey_close (isFirst : Bool) {spacing : List Char} (h : IsSpacing spacing)
    (rest : List Char) : nextKey isFirst (spacing ++ '\x7d' :: rest) = .ok (none, rest) := by
  rw [nextKey, skipSpace_spacing_cons h (by decide)]
  rfl

/-- Reading on with a member that is taken up. -/
theorem readMembers_step {member : MemberReader σ} {isFirst : Bool} {before after : σ}
    {cs rest rest' : List Char} {key : String} (hkey : nextKey isFirst cs = .ok (some key, rest))
    (hmember : member.read before key rest = .ok (after, rest')) :
    readMembers member isFirst before cs = readMembers member false after rest' := by
  rw [readMembers]
  split <;> simp_all
  split <;> simp_all

theorem readMembers_close (member : MemberReader σ) (isFirst : Bool) {before : σ}
    {spacing : List Char} (h : IsSpacing spacing) (rest : List Char) :
    readMembers member isFirst before (spacing ++ '\x7d' :: rest) = .ok (before, rest) := by
  have hkey := nextKey_close isFirst h rest
  rw [readMembers]
  split <;> simp_all

/-! ## Objects -/

/-- What a reader of members makes of some members, one after the other. -/
inductive MemberReader.TakesUp (member : MemberReader σ) (spells : α → List Char → Prop) :
    σ → List (String × α) → σ → Prop where
  | nil {state : σ} : member.TakesUp spells state [] state
  | cons {before between after : σ} {key : String} {value : α} {members : List (String × α)}
      (hfirst : ∀ tail, SpellsBehindKey spells value tail → ∀ rest,
        member.read before key (tail ++ rest) = .ok (between, rest))
      (hmembers : member.TakesUp spells between members after) :
      member.TakesUp spells before ((key, value) :: members) after

/-- The text of some members is used up to its last character. The induction is on the spelling;
what has been read before and what stood before the text vary from member to member. -/
theorem readMembers_spelled {member : MemberReader σ} {members : List (String × α)}
    {forms : List Char} (hforms : SpellsMembers spells members forms) {before after : σ}
    (htakes : member.TakesUp spells before members after) {isFirst : Bool} {opening : List Char}
    (hopening : SpellsOpening isFirst opening) (rest : List Char) :
    readMembers member isFirst before (opening ++ (forms ++ '\x7d' :: rest)) =
      .ok (after, rest) := by
  induction hforms generalizing before isFirst opening with
  | last hmember =>
    obtain ⟨hspacing, hname, htail, hbehind⟩ := hmember
    obtain _ | ⟨hfirst, ⟨⟩⟩ := htakes
    simp only [List.append_assoc]
    rw [readMembers_step (nextKey_spelled hopening hspacing hname _) (hfirst _ htail _)]
    exact readMembers_close member false hbehind rest
  | cons hmember _ ih =>
    obtain ⟨hspacing, hname, htail, hbehind⟩ := hmember
    obtain _ | ⟨hfirst, hmembers⟩ := htakes
    simp only [List.append_assoc, List.cons_append]
    rw [readMembers_step (nextKey_spelled hopening hspacing hname _) (hfirst _ htail _)]
    simpa using ih hmembers (.comma hbehind)

theorem readMembers_object {member : MemberReader σ} {members : List (String × α)}
    {form : List Char} (hform : SpellsObject spells members form) {before after : σ}
    (htakes : member.TakesUp spells before members after) :
    ∃ inner, form = '\x7b' :: inner ∧ ∀ rest,
      readMembers member true before (inner ++ rest) = .ok (after, rest) := by
  cases hform with
  | empty hspacing =>
    cases htakes
    refine ⟨_, rfl, fun rest => ?_⟩
    simpa using readMembers_close member true hspacing rest
  | members hmembers =>
    refine ⟨_, rfl, fun rest => ?_⟩
    simpa using readMembers_spelled hmembers htakes .first rest

/-! ## Objects as lists of their members -/

theorem Reader.Reads.pair_takesUp {item : Reader α} (h : item.Reads spells)
    (before members : List (String × α)) :
    item.pair.TakesUp spells before members (members.reverse ++ before) := by
  induction members generalizing before with
  | nil => exact .nil
  | cons member members ih =>
    rw [List.reverse_cons, List.append_assoc]
    refine .cons (fun tail htail rest => ?_) (ih (member :: before))
    change (item.readBehindColon (tail ++ rest)).map _ = _
    rw [h.readBehindColon htail]
    rfl

theorem Reader.Reads.pairs {item : Reader α} (h : item.Reads spells) :
    item.pairs.Reads (SpellsObject spells) := by
  intro members form hform spacing hspacing rest
  obtain ⟨inner, rfl, hread⟩ := readMembers_object hform (h.pair_takesUp [] members)
  change item.readPairs (spacing ++ '\x7b' :: inner ++ rest) = .ok (members, rest)
  rw [readPairs, List.append_assoc, List.cons_append, skipSpace_spacing_cons hspacing (by decide)]
  simp [hread, Except.map]

end UnitLint.Json
