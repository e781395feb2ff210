import UnitLint.Json.Reader

/-!
# Spellings of JSON values

What texts stand for a value, said without reading them. White space may stand between any two
tokens, a character of a string may be written in every way that the grammar of JSON allows, and
the members of an object may come with any spelling of their values. A text can have only one value
but a value has many texts.
-/

namespace UnitLint.Json

/-- White space between tokens. -/
def IsSpacing (cs : List Char) : Prop := ∀ c ∈ cs, c ∈ [' ', '\n', '\t', '\r']

instance (cs : List Char) : Decidable (IsSpacing cs) :=
  List.decidableBAll _ cs

theorem IsSpacing.nil : IsSpacing [] := by
  intro c hc
  exact absurd hc List.not_mem_nil

theorem IsSpacing.cons {c : Char} {cs : List Char} (hc : c ∈ [' ', '\n', '\t', '\r'])
    (hcs : IsSpacing cs) : IsSpacing (c :: cs) :=
  List.forall_mem_cons.2 ⟨hc, hcs⟩

/-! ## Strings -/

/-- A hexadecimal digit in either case. -/
def IsHexDigit (value : Nat) (c : Char) : Prop :=
  "0123456789abcdef".toList[value]? = some c ∨ "0123456789ABCDEF".toList[value]? = some c

/-- Four hexadecimal digits that stand for a code unit. -/
inductive SpellsUnit (unit : Nat) : List Char → Prop where
  | digits {a b c d : Char} (ha : IsHexDigit (unit / 0x1000) a)
      (hb : IsHexDigit (unit / 0x100 % 0x10) b) (hc : IsHexDigit (unit / 0x10 % 0x10) c)
      (hd : IsHexDigit (unit % 0x10) d) : SpellsUnit unit [a, b, c, d]

/-- The letters of the short escapes with the characters that they stand for. -/
def shortEscapes : List (Char × Char) :=
  [('"', '"'), ('\\', '\\'), ('/', '/'), ('b', '\x08'), ('f', '\x0c'), ('n', '\n'), ('r', '\r'),
    ('t', '\t')]

/-- The first code unit of a character beyond the basic plane. -/
def leadUnit (c : Char) : Nat := 0xD800 + (c.toNat - 0x10000) / 0x400

/-- The second code unit of a character beyond the basic plane. -/
def trailUnit (c : Char) : Nat := 0xDC00 + (c.toNat - 0x10000) % 0x400

/-- Whether a character may stand as it is: it is no control character and has no meaning of its
own. -/
def isPlain (c : Char) : Bool := ' ' ≤ c && c != '"' && c != '\\'

/-- The spellings of a character inside a string. -/
inductive SpellsChar (c : Char) : List Char → Prop where
  | plain (hplain : isPlain c) : SpellsChar c [c]
  | short {letter : Char} (hletter : (letter, c) ∈ shortEscapes) : SpellsChar c ['\\', letter]
  | unit {digits : List Char} (hdigits : SpellsUnit c.toNat digits) :
      SpellsChar c ('\\' :: 'u' :: digits)
  | surrogates {lead trail : List Char} (hbeyond : 0x10000 ≤ c.toNat)
      (hlead : SpellsUnit (leadUnit c) lead) (htrail : SpellsUnit (trailUnit c) trail) :
      SpellsChar c ('\\' :: 'u' :: lead ++ '\\' :: 'u' :: trail)

/-- The spellings of characters one after the other. -/
inductive SpellsChars : List Char → List Char → Prop where
  | nil : SpellsChars [] []
  | cons {c : Char} {cs form forms : List Char} (hc : SpellsChar c form)
      (hcs : SpellsChars cs forms) : SpellsChars (c :: cs) (form ++ forms)

theorem SpellsChars.of_plain {cs : List Char} (h : cs.all isPlain) : SpellsChars cs cs := by
  induction cs with
  | nil => exact .nil
  | cons c cs ih =>
    rw [List.all_cons, Bool.and_eq_true] at h
    exact .cons (.plain h.1) (ih h.2)

/-- The spellings of a text as a string. -/
inductive SpellsString (text : String) : List Char → Prop where
  | quoted {forms : List Char} (hforms : SpellsChars text.toList forms) :
      SpellsString text ('"' :: forms ++ ['"'])

/-- The spellings of a text that may be absent. -/
inductive SpellsNullable : Option String → List Char → Prop where
  | null : SpellsNullable none ['n', 'u', 'l', 'l']
  | string {text : String} {form : List Char} (hform : SpellsString text form) :
      SpellsNullable (some text) form

/-! ## Objects -/

variable {α : Type}

/-- The spellings of what follows the key of a member. -/
inductive SpellsBehindKey (spells : α → List Char → Prop) (value : α) : List Char → Prop where
  | colon {before behind form : List Char} (hbefore : IsSpacing before) (hbehind : IsSpacing behind)
      (hform : spells value form) : SpellsBehindKey spells value (before ++ ':' :: behind ++ form)

/-- The spellings of a member with the white space around it. -/
inductive SpellsMember (spells : α → List Char → Prop) : String × α → List Char → Prop where
  | member {key : String} {value : α} {before name tail behind : List Char}
      (hbefore : IsSpacing before) (hname : SpellsString key name)
      (htail : SpellsBehindKey spells value tail) (hbehind : IsSpacing behind) :
      SpellsMember spells (key, value) (before ++ name ++ tail ++ behind)

/-- A member may be written without any white space. -/
theorem SpellsMember.tight {spells : α → List Char → Prop} {key : String} {value : α}
    {name form : List Char} (hname : SpellsString key name) (hform : spells value form) :
    SpellsMember spells (key, value) (name ++ ':' :: form) := by
  have htail : SpellsBehindKey spells value _ := .colon .nil .nil hform
  simpa using SpellsMember.member .nil hname htail .nil

/-- The spellings of one or more members, between which commas stand. -/
inductive SpellsMembers (spells : α → List Char → Prop) :
    List (String × α) → List Char → Prop where
  | last {member : String × α} {form : List Char} (hmember : SpellsMember spells member form) :
      SpellsMembers spells [member] form
  | cons {member : String × α} {members : List (String × α)} {form forms : List Char}
      (hmember : SpellsMember spells member form) (hmembers : SpellsMembers spells members forms) :
      SpellsMembers spells (member :: members) (form ++ ',' :: forms)

/-- The spellings of an object. -/
inductive SpellsObject (spells : α → List Char → Prop) :
    List (String × α) → List Char → Prop where
  | empty {spacing : List Char} (hspacing : IsSpacing spacing) :
      SpellsObject spells [] ('\x7b' :: spacing ++ ['\x7d'])
  | members {members : List (String × α)} {forms : List Char}
      (hmembers : SpellsMembers spells members forms) :
      SpellsObject spells members ('\x7b' :: forms ++ ['\x7d'])

end UnitLint.Json
