import UnitLint.Proofs.Json.Spelling
import UnitLint.Text.Digit

/-!
# The grammar of JSON

Which texts are JSON values at all, said without reading them and whatever they stand for. A value
is kept as the characters that it is written with. Lists and objects are kept together with the
white space around their items, so that no two texts are taken for one: to put another value in the
place of an item changes the text there and nowhere else.

A string counts by its form alone. Half a character that finds no other half is no text, so not
every string of the grammar spells one.
-/

namespace UnitLint.Json

/-! ## Strings -/

/-- What can stand inside a string: a character that has no meaning of its own, a short escape, or
the number of a code unit. -/
inductive IsStringPart : List Char → Prop where
  | plain {c : Char} (hplain : isPlain c) : IsStringPart [c]
  | short {letter c : Char} (hletter : (letter, c) ∈ shortEscapes) : IsStringPart ['\\', letter]
  | unit {unit : Nat} {digits : List Char} (hdigits : SpellsUnit unit digits) :
      IsStringPart ('\\' :: 'u' :: digits)

/-- What stands between the quotes of a string. -/
inductive IsStringInner : List Char → Prop where
  | nil : IsStringInner []
  | cons {part parts : List Char} (hpart : IsStringPart part) (hparts : IsStringInner parts) :
      IsStringInner (part ++ parts)

/-- A string with its quotes. -/
inductive IsQuoted : List Char → Prop where
  | quoted {inner : List Char} (hinner : IsStringInner inner) : IsQuoted ('"' :: inner ++ ['"'])

theorem IsQuoted.exists_inner {form : List Char} (h : IsQuoted form) :
    ∃ inner, IsStringInner inner ∧ form = '"' :: (inner ++ ['"']) := by
  obtain ⟨hinner⟩ := h
  exact ⟨_, hinner, rfl⟩

theorem IsStringInner.append {first second : List Char} (hfirst : IsStringInner first)
    (hsecond : IsStringInner second) : IsStringInner (first ++ second) := by
  induction hfirst with
  | nil => exact hsecond
  | cons hpart _ ih =>
    rw [List.append_assoc]
    exact .cons hpart ih

theorem IsStringPart.inner {part : List Char} (h : IsStringPart part) : IsStringInner part := by
  simpa using IsStringInner.cons h .nil

theorem SpellsChar.isStringInner {c : Char} {form : List Char} (h : SpellsChar c form) :
    IsStringInner form := by
  cases h with
  | plain hplain => exact (IsStringPart.plain hplain).inner
  | short hletter => exact (IsStringPart.short hletter).inner
  | unit hdigits => exact (IsStringPart.unit hdigits).inner
  | surrogates _ hlead htrail =>
    exact (IsStringPart.unit hlead).inner.append (IsStringPart.unit htrail).inner

theorem SpellsChars.isStringInner {cs forms : List Char} (h : SpellsChars cs forms) :
    IsStringInner forms := by
  induction h with
  | nil => exact .nil
  | cons hc _ ih => exact hc.isStringInner.append ih

/-- The spelling of a text is a string. -/
theorem SpellsString.isQuoted {text : String} {form : List Char} (h : SpellsString text form) :
    IsQuoted form := by
  obtain ⟨hforms⟩ := h
  exact .quoted hforms.isStringInner

/-! ## Numbers -/

/-- One or more digits. -/
def IsDigits (cs : List Char) : Prop := cs ≠ [] ∧ ∀ c ∈ cs, Text.isDigit c

/-- The digits in front of the point: a zero stands alone. -/
inductive IsWhole : List Char → Prop where
  | zero : IsWhole ['0']
  | digits {c : Char} {cs : List Char} (hc : c ≠ '0') (hdigits : IsDigits (c :: cs)) :
      IsWhole (c :: cs)

/-- The point with the digits behind it, or neither. -/
inductive IsFraction : List Char → Prop where
  | missing : IsFraction []
  | point {digits : List Char} (hdigits : IsDigits digits) : IsFraction ('.' :: digits)

/-- The exponent with its mark and sign, or none. -/
inductive IsExponent : List Char → Prop where
  | missing : IsExponent []
  | marked {mark : Char} {sign digits : List Char} (hmark : mark = 'e' ∨ mark = 'E')
      (hsign : sign ∈ [[], ['+'], ['-']]) (hdigits : IsDigits digits) :
      IsExponent (mark :: (sign ++ digits))

/-- A number without its sign. -/
inductive IsUnsigned : List Char → Prop where
  | parts {whole fraction exponent : List Char} (hwhole : IsWhole whole)
      (hfraction : IsFraction fraction) (hexponent : IsExponent exponent) :
      IsUnsigned (whole ++ (fraction ++ exponent))

/-- A number. -/
inductive IsNumeral : List Char → Prop where
  | positive {form : List Char} (hform : IsUnsigned form) : IsNumeral form
  | negative {form : List Char} (hform : IsUnsigned form) : IsNumeral ('-' :: form)

/-- Text with which a number in front of it does not go on. -/
def EndsNumeral (rest : List Char) : Prop :=
  ∀ c ∈ rest.head?, Text.isDigit c = false ∧ c ≠ '.' ∧ c ≠ 'e' ∧ c ≠ 'E'

theorem EndsNumeral.nil : EndsNumeral [] := by
  intro c hc
  contradiction

/-! ## Lists and objects -/

/-- A piece of text with white space around it. -/
structure Spaced where
  before : List Char
  form : List Char
  behind : List Char

namespace Spaced

/-- The text of the piece. -/
def text (piece : Spaced) : List Char := piece.before ++ (piece.form ++ piece.behind)

/-- Whether white space is all that stands around the piece. -/
structure IsSpaced (piece : Spaced) : Prop where
  before : IsSpacing piece.before
  behind : IsSpacing piece.behind

end Spaced

/-- A member of an object: a name and a value. -/
structure Member where
  name : Spaced
  value : Spaced

namespace Member

/-- The text of the member. -/
def text (member : Member) : List Char := member.name.text ++ ':' :: member.value.text

/-- Whether name and value have nothing but white space around them. -/
structure IsSpaced (member : Member) : Prop where
  name : member.name.IsSpaced
  value : member.value.IsSpaced

/-- The member with another value in the place of its own. -/
def withValue (member : Member) (form : List Char) : Member :=
  { member with value := { member.value with form } }

end Member

/-- Texts that each follow a comma. -/
def followed (texts : List (List Char)) : List Char := texts.flatMap (',' :: ·)

/-- Texts with commas between them. -/
def separated : List (List Char) → List Char
  | [] => []
  | first :: others => first ++ followed others

/-- A list of items. The white space behind its opening is all there is if it has none. -/
def listText (spacing : List Char) (items : List Spaced) : List Char :=
  '[' :: (spacing ++ (separated (items.map Spaced.text) ++ [']']))

/-- An object of members. -/
def objectText (spacing : List Char) (members : List Member) : List Char :=
  '\x7b' :: (spacing ++ (separated (members.map Member.text) ++ ['\x7d']))

/-! ## Values -/

/-- The values of JSON, nested to any depth. -/
inductive IsValue : List Char → Prop where
  | null : IsValue ['n', 'u', 'l', 'l']
  | yes : IsValue ['t', 'r', 'u', 'e']
  | no : IsValue ['f', 'a', 'l', 's', 'e']
  | numeral {form : List Char} (hform : IsNumeral form) : IsValue form
  | string {form : List Char} (hform : IsQuoted form) : IsValue form
  | list {spacing : List Char} {items : List Spaced} (hspacing : IsSpacing spacing)
      (hspaced : ∀ item ∈ items, item.IsSpaced) (hitems : ∀ item ∈ items, IsValue item.form) :
      IsValue (listText spacing items)
  | object {spacing : List Char} {members : List Member} (hspacing : IsSpacing spacing)
      (hspaced : ∀ member ∈ members, member.IsSpaced)
      (hnames : ∀ member ∈ members, IsQuoted member.name.form)
      (hvalues : ∀ member ∈ members, IsValue member.value.form) :
      IsValue (objectText spacing members)

/-- Whether a piece is an item of a list. -/
structure Spaced.IsItem (item : Spaced) : Prop where
  spaced : item.IsSpaced
  value : IsValue item.form

/-- Whether a member is one of the grammar. -/
structure Member.IsWritten (member : Member) : Prop where
  spaced : member.IsSpaced
  name : IsQuoted member.name.form
  value : IsValue member.value.form

/-- A member without any white space. -/
def Member.tight (name form : List Char) : Member := ⟨⟨[], name, []⟩, ⟨[], form, []⟩⟩

theorem Member.tight_isWritten {name form : List Char} (hname : IsQuoted name)
    (hform : IsValue form) : (tight name form).IsWritten :=
  ⟨⟨⟨.nil, .nil⟩, ⟨.nil, .nil⟩⟩, hname, hform⟩

theorem IsValue.of_items {spacing : List Char} {items : List Spaced} (hspacing : IsSpacing spacing)
    (hitems : ∀ item ∈ items, item.IsItem) : IsValue (listText spacing items) :=
  .list hspacing (fun item hitem => (hitems item hitem).spaced)
    (fun item hitem => (hitems item hitem).value)

theorem IsValue.of_members {spacing : List Char} {members : List Member}
    (hspacing : IsSpacing spacing) (hmembers : ∀ member ∈ members, member.IsWritten) :
    IsValue (objectText spacing members) :=
  .object hspacing (fun member hmember => (hmembers member hmember).spaced)
    (fun member hmember => (hmembers member hmember).name)
    (fun member hmember => (hmembers member hmember).value)

/-- Whether some text is a list of values. -/
def IsList (form : List Char) : Prop :=
  ∃ (spacing : List Char) (items : List Spaced), IsSpacing spacing ∧
    (∀ item ∈ items, item.IsItem) ∧ form = listText spacing items

/-- Whether some text is an object of members. -/
def IsObject (form : List Char) : Prop :=
  ∃ (spacing : List Char) (members : List Member), IsSpacing spacing ∧
    (∀ member ∈ members, member.IsWritten) ∧ form = objectText spacing members

/-! ## First characters -/

theorem IsUnsigned.exists_cons {form : List Char} (h : IsUnsigned form) :
    ∃ c cs, form = c :: cs ∧ Text.isDigit c := by
  obtain ⟨hwhole, -, -⟩ := h
  cases hwhole with
  | zero => exact ⟨_, _, rfl, rfl⟩
  | digits _ hdigits => exact ⟨_, _, rfl, hdigits.2 _ List.mem_cons_self⟩

theorem IsNumeral.exists_cons {form : List Char} (h : IsNumeral form) :
    ∃ c cs, form = c :: cs ∧ (c = '-' ∨ Text.isDigit c) := by
  cases h with
  | positive hform =>
    obtain ⟨c, cs, rfl, hc⟩ := hform.exists_cons
    exact ⟨c, cs, rfl, .inr hc⟩
  | negative => exact ⟨_, _, rfl, .inl rfl⟩

/-- A value begins with a character that tells its kind. -/
theorem IsValue.exists_cons {form : List Char} (h : IsValue form) :
    ∃ c cs, form = c :: cs ∧
      (c ∈ ['n', 't', 'f', '"', '[', '\x7b'] ∨ c = '-' ∨ Text.isDigit c) := by
  cases h with
  | numeral hform =>
    obtain ⟨c, cs, rfl, hc⟩ := hform.exists_cons
    exact ⟨c, cs, rfl, .inr hc⟩
  | string hform =>
    cases hform
    exact ⟨_, _, rfl, .inl (by decide)⟩
  | null | yes | no | list | object => exact ⟨_, _, rfl, .inl (by decide)⟩

end UnitLint.Json
