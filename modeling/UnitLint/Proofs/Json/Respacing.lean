import UnitLint.Proofs.Json.Extent
import UnitLint.Proofs.Text.Digit

/-!
# Other white space

The control characters among the white space of a text can be exchanged one by one for any other
white space, without looking at where they stand. No control character can be part of a string or a
number, so whatever is a value stays one, and its strings and numbers stay as they are.
-/

namespace UnitLint.Json

/-- Whether no control character stands in a text. -/
def IsPrintable (cs : List Char) : Prop := ∀ c ∈ cs, ' ' ≤ c

instance (cs : List Char) : Decidable (IsPrintable cs) :=
  List.decidableBAll _ cs

theorem IsPrintable.append {first second : List Char} (hfirst : IsPrintable first)
    (hsecond : IsPrintable second) : IsPrintable (first ++ second) :=
  List.forall_mem_append.2 ⟨hfirst, hsecond⟩

theorem IsPrintable.cons {c : Char} {cs : List Char} (hc : ' ' ≤ c) (hcs : IsPrintable cs) :
    IsPrintable (c :: cs) :=
  List.forall_mem_cons.2 ⟨hc, hcs⟩

theorem IsPrintable.nil : IsPrintable [] := List.forall_mem_nil _

/-! ## Strings -/

theorem IsHexDigit.printable {value : Nat} {c : Char} (h : IsHexDigit value c) : ' ' ≤ c := by
  have hlower : IsPrintable "0123456789abcdef".toList := by decide
  have hupper : IsPrintable "0123456789ABCDEF".toList := by decide
  obtain h | h := h
  · exact hlower c (List.mem_of_getElem? h)
  · exact hupper c (List.mem_of_getElem? h)

theorem SpellsUnit.isPrintable {unit : Nat} {digits : List Char} (h : SpellsUnit unit digits) :
    IsPrintable digits := by
  obtain ⟨ha, hb, hc, hd⟩ := h
  exact .cons ha.printable (.cons hb.printable (.cons hc.printable (.cons hd.printable .nil)))

theorem IsStringPart.isPrintable {part : List Char} (h : IsStringPart part) :
    IsPrintable part := by
  cases h with
  | plain hplain =>
    rw [isPlain, Bool.and_eq_true, Bool.and_eq_true, decide_eq_true_eq] at hplain
    exact .cons hplain.1.1 .nil
  | short hletter =>
    have hletters : ∀ pair ∈ shortEscapes, ' ' ≤ pair.1 := by decide
    exact .cons (by decide) (.cons (hletters _ hletter) .nil)
  | unit hdigits => exact .cons (by decide) (.cons (by decide) hdigits.isPrintable)

theorem IsStringInner.isPrintable {inner : List Char} (h : IsStringInner inner) :
    IsPrintable inner := by
  induction h with
  | nil => exact .nil
  | cons hpart _ ih => exact hpart.isPrintable.append ih

theorem IsQuoted.isPrintable {form : List Char} (h : IsQuoted form) : IsPrintable form := by
  obtain ⟨inner, hinner, rfl⟩ := h.exists_inner
  exact .cons (by decide) (hinner.isPrintable.append (.cons (by decide) .nil))

theorem SpellsNullable.isPrintable {text? : Option String} {form : List Char}
    (h : SpellsNullable text? form) : IsPrintable form := by
  cases h with
  | null => decide
  | string hform => exact hform.isQuoted.isPrintable

/-! ## Numbers -/

theorem IsDigits.isPrintable {digits : List Char} (h : IsDigits digits) : IsPrintable digits := by
  intro c hc
  obtain ⟨hle, -⟩ := (Text.isDigit_iff c).1 (h.2 c hc)
  have hzero : ' ' ≤ '0' := by decide
  exact Char.le_trans hzero ((Text.le_iff_toNat_le '0' c).2 hle)

theorem IsWhole.isPrintable {whole : List Char} (h : IsWhole whole) : IsPrintable whole := by
  cases h with
  | zero => exact .cons (by decide) .nil
  | digits _ hdigits => exact hdigits.isPrintable

theorem IsFraction.isPrintable {fraction : List Char} (h : IsFraction fraction) :
    IsPrintable fraction := by
  cases h with
  | missing => exact .nil
  | point hdigits => exact .cons (by decide) hdigits.isPrintable

theorem IsExponent.isPrintable {exponent : List Char} (h : IsExponent exponent) :
    IsPrintable exponent := by
  cases h with
  | missing => exact .nil
  | @marked mark sign digits hmark hsign hdigits =>
    have hsigns : ∀ sign ∈ [[], ['+'], ['-']], IsPrintable sign := by decide
    have hmark : ' ' ≤ mark := by
      obtain rfl | rfl := hmark <;> decide
    exact .cons hmark ((hsigns sign hsign).append hdigits.isPrintable)

theorem IsUnsigned.isPrintable {form : List Char} (h : IsUnsigned form) : IsPrintable form := by
  obtain ⟨hwhole, hfraction, hexponent⟩ := h
  exact hwhole.isPrintable.append (hfraction.isPrintable.append hexponent.isPrintable)

theorem IsNumeral.isPrintable {form : List Char} (h : IsNumeral form) : IsPrintable form := by
  cases h with
  | positive hform => exact hform.isPrintable
  | negative hform => exact .cons (by decide) hform.isPrintable

/-! ## Texts -/

/-- A way to exchange white space, character by character. It is not said what becomes of control
characters that are no white space; there is no place for them in a text. -/
structure IsRespacing (respace : Char → List Char) : Prop where
  kept : ∀ c, ' ' ≤ c → respace c = [c]
  spacing : ∀ c ∈ [' ', '\n', '\t', '\r'], IsSpacing (respace c)

variable {respace : Char → List Char}

/-- A piece of text with its white space exchanged. -/
def Spaced.respaced (respace : Char → List Char) (piece : Spaced) : Spaced where
  before := piece.before.flatMap respace
  form := piece.form.flatMap respace
  behind := piece.behind.flatMap respace

theorem Spaced.text_respaced (respace : Char → List Char) (piece : Spaced) :
    (piece.respaced respace).text = piece.text.flatMap respace := by
  rw [text, text, List.flatMap_append, List.flatMap_append]
  rfl

/-- A member with its white space exchanged. -/
def Member.respaced (respace : Char → List Char) (member : Member) : Member where
  name := member.name.respaced respace
  value := member.value.respaced respace

namespace IsRespacing

variable (h : IsRespacing respace)
include h

theorem printable {form : List Char} (hform : IsPrintable form) : form.flatMap respace = form := by
  induction form with
  | nil => rfl
  | cons c cs ih =>
    obtain ⟨hc, hcs⟩ := List.forall_mem_cons.1 hform
    rw [List.flatMap_cons, h.kept c hc, ih hcs, List.singleton_append]

theorem nullable {text? : Option String} {form : List Char} (hform : SpellsNullable text? form) :
    SpellsNullable text? (form.flatMap respace) := by
  rw [h.printable hform.isPrintable]
  exact hform

theorem isSpacing {cs : List Char} (hcs : IsSpacing cs) : IsSpacing (cs.flatMap respace) := by
  intro c hc
  obtain ⟨d, hd, hc⟩ := List.mem_flatMap.1 hc
  exact h.spacing d (hcs d hd) c hc

theorem isSpaced {piece : Spaced} (hpiece : piece.IsSpaced) : (piece.respaced respace).IsSpaced :=
  ⟨h.isSpacing hpiece.before, h.isSpacing hpiece.behind⟩

theorem text_respaced (member : Member) :
    (member.respaced respace).text = member.text.flatMap respace := by
  rw [Member.text, Member.text, List.flatMap_append, List.flatMap_cons, h.kept ':' (by decide),
    List.singleton_append, ← Spaced.text_respaced, ← Spaced.text_respaced]
  rfl

theorem separated (texts : List (List Char)) :
    (Json.separated texts).flatMap respace = Json.separated (texts.map (·.flatMap respace)) := by
  cases texts with
  | nil => rfl
  | cons first others =>
    rw [Json.separated, List.map_cons, Json.separated, List.flatMap_append, followed, followed,
      List.flatMap_assoc, List.flatMap_map]
    simp only [List.flatMap_cons, h.kept ',' (by decide), List.singleton_append]

theorem listText (spacing : List Char) (items : List Spaced) :
    (Json.listText spacing items).flatMap respace =
      Json.listText (spacing.flatMap respace) (items.map (·.respaced respace)) := by
  have htexts : (items.map (·.respaced respace)).map Spaced.text =
      (items.map Spaced.text).map (·.flatMap respace) := by
    simp [Spaced.text_respaced]
  rw [Json.listText, Json.listText, htexts, ← h.separated]
  simp [h.kept '[' (by decide), h.kept ']' (by decide)]

theorem objectText (spacing : List Char) (members : List Member) :
    (Json.objectText spacing members).flatMap respace =
      Json.objectText (spacing.flatMap respace) (members.map (·.respaced respace)) := by
  have htexts : (members.map (·.respaced respace)).map Member.text =
      (members.map Member.text).map (·.flatMap respace) := by
    simp [h.text_respaced]
  rw [Json.objectText, Json.objectText, htexts, ← h.separated]
  simp [h.kept '\x7b' (by decide), h.kept '\x7d' (by decide)]

/-- A value with its white space exchanged is a value. The induction is on the value; what is no
list and no object has no white space to exchange. -/
theorem isValue {form : List Char} (hform : IsValue form) : IsValue (form.flatMap respace) := by
  induction hform with
  | null | yes | no =>
    rw [h.printable (by decide)]
    constructor
  | numeral hform =>
    rw [h.printable hform.isPrintable]
    exact .numeral hform
  | string hform =>
    rw [h.printable hform.isPrintable]
    exact .string hform
  | list hspacing hspaced hitems ih =>
    rw [h.listText]
    refine .list (h.isSpacing hspacing) ?_ ?_
    · exact List.forall_mem_map.2 fun item hitem => h.isSpaced (hspaced item hitem)
    · exact List.forall_mem_map.2 ih
  | object hspacing hspaced hnames hvalues ih =>
    rw [h.objectText]
    refine .object (h.isSpacing hspacing) ?_ ?_ ?_
    · refine List.forall_mem_map.2 fun member hmember => ?_
      exact ⟨h.isSpaced (hspaced member hmember).name, h.isSpaced (hspaced member hmember).value⟩
    · refine List.forall_mem_map.2 fun member hmember => ?_
      have hname := hnames member hmember
      rw [Member.respaced, Spaced.respaced, h.printable hname.isPrintable]
      exact hname
    · exact List.forall_mem_map.2 ih

theorem name {member : Member} (hname : IsQuoted member.name.form) :
    (member.respaced respace).name.form = member.name.form :=
  h.printable hname.isPrintable

theorem isItem {item : Spaced} (hitem : item.IsItem) : (item.respaced respace).IsItem :=
  ⟨h.isSpaced hitem.spaced, h.isValue hitem.value⟩

theorem isWritten {member : Member} (hmember : member.IsWritten) :
    (member.respaced respace).IsWritten := by
  refine ⟨⟨h.isSpaced hmember.spaced.name, h.isSpaced hmember.spaced.value⟩, ?_,
    h.isValue hmember.value⟩
  rw [h.name hmember.name]
  exact hmember.name

end IsRespacing

end UnitLint.Json
