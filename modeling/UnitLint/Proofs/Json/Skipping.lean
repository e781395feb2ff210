import UnitLint.Json.Skip
import UnitLint.Proofs.Json.Numerals
import UnitLint.Proofs.Json.Quoted

/-!
# Passing over values

Passing over a value uses up the value and nothing else, however deep it nests, and nothing but a
value can be passed over. The first statement is an induction on the value. For the second, what is
left of the open lists and objects at any point of the text is described by `LeftOpen`, and every
step of the machine is shown to use up its part of that.
-/

namespace UnitLint.Json

/-! ## White space -/

theorem isSpacing_takeWhile (cs : List Char) : IsSpacing (cs.takeWhile isSpace) := by
  intro c hc
  exact (isSpace_iff c).1 (List.mem_takeWhile_imp hc)

/-- What has been passed over in front of a token is white space. -/
theorem exists_spacing (cs : List Char) :
    ∃ spacing, IsSpacing spacing ∧ cs = spacing ++ skipSpace cs :=
  ⟨_, isSpacing_takeWhile cs, List.takeWhile_append_dropWhile.symm⟩

theorem exists_spacing_of_eq {cs token : List Char} (h : skipSpace cs = token) :
    ∃ spacing, IsSpacing spacing ∧ cs = spacing ++ token := by
  obtain ⟨spacing, hspacing, heq⟩ := exists_spacing cs
  exact ⟨spacing, hspacing, h ▸ heq⟩

theorem skipSpace_eq_nil_iff {cs : List Char} : skipSpace cs = [] ↔ IsSpacing cs := by
  simp only [skipSpace, List.dropWhile_eq_nil_iff, isSpace_iff]
  rfl

theorem IsSpacing.append {first second : List Char} (hfirst : IsSpacing first)
    (hsecond : IsSpacing second) : IsSpacing (first ++ second) :=
  List.forall_mem_append.2 ⟨hfirst, hsecond⟩

theorem numeral_head {c : Char} (h : c = '-' ∨ Text.isDigit c) :
    isSpace c = false ∧ c ≠ '[' ∧ c ≠ ']' ∧ c ≠ '\x7b' := by
  rcases h with rfl | hdigit
  · decide
  · have hne : ∀ d, Text.isDigit d = false → c ≠ d := by
      rintro d hd rfl
      rw [hd] at hdigit
      contradiction
    simp [isSpace, hne ' ' rfl, hne '\n' rfl, hne '\t' rfl, hne '\r' rfl, hne '[' rfl,
      hne ']' rfl, hne '\x7b' rfl]

theorem not_isNumeral_objectText (spacing : List Char) (members : List Member) :
    ¬IsNumeral (objectText spacing members) := by
  intro h
  obtain ⟨c, cs, heq, hc⟩ := h.exists_cons
  exact (numeral_head hc).2.2.2 (List.cons.inj heq).1.symm

theorem IsValue.exists_token {form : List Char} (h : IsValue form) :
    ∃ c cs, form = c :: cs ∧ isSpace c = false ∧ c ≠ ']' := by
  obtain ⟨c, cs, rfl, hc⟩ := h.exists_cons
  refine ⟨c, cs, rfl, ?_⟩
  rcases hc with hc | hc
  · simp only [List.mem_cons, List.not_mem_nil, or_false] at hc
    rcases hc with rfl | rfl | rfl | rfl | rfl | rfl <;> decide
  · obtain ⟨hspace, -, hne, -⟩ := numeral_head hc
    exact ⟨hspace, hne⟩

/-- A value that is neither an object nor a list begins as none of them does. -/
theorem IsValue.isObject_or_isList {form : List Char} (h : IsValue form) :
    IsObject form ∨ IsList form ∨
      ∃ c cs, form = c :: cs ∧ isSpace c = false ∧ c ≠ '[' ∧ c ≠ '\x7b' := by
  cases h with
  | object hspacing hspaced hnames hvalues =>
    exact .inl ⟨_, _, hspacing, fun member hmember =>
      ⟨hspaced member hmember, hnames member hmember, hvalues member hmember⟩, rfl⟩
  | list hspacing hspaced hitems =>
    exact .inr (.inl ⟨_, _, hspacing, fun item hitem =>
      ⟨hspaced item hitem, hitems item hitem⟩, rfl⟩)
  | numeral hform =>
    obtain ⟨c, cs, rfl, hc⟩ := hform.exists_cons
    obtain ⟨hspace, hlist, -, hobject⟩ := numeral_head hc
    exact .inr (.inr ⟨c, cs, rfl, hspace, hlist, hobject⟩)
  | string hform =>
    obtain ⟨inner, -, rfl⟩ := hform.exists_inner
    exact .inr (.inr ⟨_, _, rfl, by decide⟩)
  | null | yes | no => exact .inr (.inr ⟨_, _, rfl, by decide⟩)

theorem EndsNumeral.spacing {spacing rest : List Char} (h : IsSpacing spacing)
    (hrest : EndsNumeral rest) : EndsNumeral (spacing ++ rest) := by
  cases spacing with
  | nil => exact hrest
  | cons first others =>
    intro d hd
    obtain rfl : first = d := by simpa using hd
    have hmem := h first List.mem_cons_self
    simp only [List.mem_cons, List.not_mem_nil, or_false] at hmem
    rcases hmem with rfl | rfl | rfl | rfl <;> decide

/-- A closing mark or comma ends a number. -/
theorem EndsNumeral.mark {c : Char} (hc : c ∈ [',', ']', '\x7d']) (rest : List Char) :
    EndsNumeral (c :: rest) := by
  intro d hd
  obtain rfl : c = d := by simpa using hd
  simp only [List.mem_cons, List.not_mem_nil, or_false] at hc
  rcases hc with rfl | rfl | rfl <;> decide

/-! ## Single tokens -/

theorem skipWord_eq_ok_iff {letters cs rest : List Char} :
    skipWord letters cs = .ok rest ↔ cs = letters ++ rest := by
  induction letters generalizing cs with
  | nil => simp [skipWord]
  | cons letter letters ih =>
    cases cs with
    | nil => simp [skipWord]
    | cons c cs =>
      rw [skipWord, List.cons_append, List.cons.injEq]
      by_cases h : c = letter
      · simp [h, ih]
      · simp [h]

theorem eq_append_of_skipColon {cs rest : List Char} (h : skipColon cs = .ok rest) :
    ∃ spacing, IsSpacing spacing ∧ cs = spacing ++ ':' :: rest := by
  rw [skipColon] at h
  split at h
  · next heq =>
    cases h
    exact exists_spacing_of_eq heq
  · contradiction
  · contradiction

theorem skipScalar_digit {c : Char} (hc : Text.isDigit c) (cs : List Char) :
    skipScalar (c :: cs) = (readNumeral .invalidNumber false (c :: cs)).map Prod.snd := by
  rw [skipScalar, if_pos hc]
  all_goals
    rintro rfl
    contradiction

theorem skipScalar_numeral {form rest : List Char} (h : IsNumeral form) (hrest : EndsNumeral rest) :
    skipScalar (form ++ rest) = .ok rest := by
  cases h with
  | positive hform =>
    obtain ⟨numeral, hread⟩ := readNumeral_written .invalidNumber hform hrest false
    obtain ⟨c, cs, rfl, hc⟩ := hform.exists_cons
    rw [List.cons_append] at hread ⊢
    rw [skipScalar_digit hc, hread]
    rfl
  | negative hform =>
    obtain ⟨numeral, hread⟩ := readNumeral_written .invalidNumber hform hrest true
    rw [List.cons_append, skipScalar, hread]
    rfl

theorem eq_append_of_skipScalar {cs rest : List Char} (h : skipScalar cs = .ok rest) :
    ∃ form, IsValue form ∧ cs = form ++ rest := by
  unfold skipScalar at h
  split at h
  · contradiction
  · exact ⟨_, .null, congrArg (List.cons _) (skipWord_eq_ok_iff.1 h)⟩
  · exact ⟨_, .yes, congrArg (List.cons _) (skipWord_eq_ok_iff.1 h)⟩
  · exact ⟨_, .no, congrArg (List.cons _) (skipWord_eq_ok_iff.1 h)⟩
  · obtain ⟨inner, hinner, rfl⟩ := eq_append_of_skipString h
    exact ⟨_, .string (.quoted hinner), by simp⟩
  · obtain ⟨⟨numeral, _⟩, hread, rfl⟩ := exists_of_map_eq_ok h
    obtain ⟨form, hform, rfl⟩ := eq_append_of_readNumeral hread
    exact ⟨_, .numeral (.negative hform), rfl⟩
  · split at h
    · obtain ⟨⟨numeral, _⟩, hread, rfl⟩ := exists_of_map_eq_ok h
      obtain ⟨form, hform, heq⟩ := eq_append_of_readNumeral hread
      exact ⟨_, .numeral (.positive hform), heq⟩
    · contradiction

/-! ## Steps of the machine -/

namespace Frame

/-- The character that begins it. -/
def opener : Frame → Char
  | list => '['
  | object => '\x7b'

theorem opening?_opener (frame : Frame) : opening? frame.opener = some frame := by
  cases frame <;> decide

theorem eq_opener_of_opening? {frame : Frame} {c : Char} (h : opening? c = some frame) :
    c = frame.opener := by
  rw [opening?] at h
  split at h
  · cases h
    assumption
  · split at h
    · cases h
      assumption
    · contradiction

theorem isSpace_opener (frame : Frame) : isSpace frame.opener = false := by
  cases frame <;> decide

theorem isSpace_closer (frame : Frame) : isSpace frame.closer = false := by
  cases frame <;> decide

end Frame

theorem skipFrames_scalar {spacing token rest : List Char} {c : Char} (hspacing : IsSpacing spacing)
    (hspace : isSpace c = false) (hopening : opening? c = none)
    (h : skipScalar (c :: token) = .ok rest) (frames : List Frame) :
    skipFrames .value frames (spacing ++ c :: token) = skipFrames .sequel frames rest := by
  have hskip := skipSpace_spacing_cons hspacing hspace token
  rw [skipFrames]
  split
  · simp_all
  · next heq =>
    obtain ⟨rfl, rfl⟩ := List.cons.inj (hskip.symm.trans heq)
    simp only [hopening]
    split <;> simp_all

theorem skipFrames_enter {spacing token rest : List Char} {frame : Frame} {due : Due}
    (hspacing : IsSpacing spacing) (h : frame.enter token = .ok (due, rest))
    (frames : List Frame) :
    skipFrames .value frames (spacing ++ frame.opener :: token) =
      skipFrames due (due.push frame frames) rest := by
  have hskip := skipSpace_spacing_cons hspacing frame.isSpace_opener token
  rw [skipFrames]
  split
  · simp_all
  · next heq =>
    obtain ⟨rfl, rfl⟩ := List.cons.inj (hskip.symm.trans heq)
    simp only [frame.opening?_opener]
    split <;> simp_all

theorem skipFrames_proceed {cs rest : List Char} {frame : Frame} {due : Due}
    (h : frame.proceed cs = .ok (due, rest)) (frames : List Frame) :
    skipFrames .sequel (frame :: frames) cs = skipFrames due (due.push frame frames) rest := by
  rw [skipFrames]
  split <;> simp_all

/-! ## Every value can be passed over -/

/-- An item of a list or an object as it is passed over: what stands in front of its value, and the
value. -/
structure Part where
  label : List Char
  value : Spaced

/-- The text of the item. -/
def Part.text (part : Part) : List Char := part.label ++ part.value.text

/-- Whether some text may stand in front of a value: nothing in a list, a key with its colon in an
object. -/
def Frame.IsLabel : Frame → List Char → Prop
  | list, label => label = []
  | object, label =>
    ∃ name : Spaced, name.IsSpaced ∧ IsQuoted name.form ∧ label = name.text ++ [':']

/-- A list or an object of some items. -/
def Frame.text (frame : Frame) (spacing : List Char) (parts : List Part) : List Char :=
  frame.opener :: (spacing ++ (separated (parts.map Part.text) ++ [frame.closer]))

theorem Frame.skipLabel_label {frame : Frame} {label : List Char} (h : frame.IsLabel label)
    (rest : List Char) : frame.skipLabel (label ++ rest) = .ok rest := by
  cases frame with
  | list =>
    obtain rfl : label = [] := h
    rfl
  | object =>
    obtain ⟨name, ⟨hbefore, hbehind⟩, hquoted, rfl⟩ := h
    obtain ⟨inner, hinner, hform⟩ := hquoted.exists_inner
    change skipKey (name.text ++ [':'] ++ rest) = .ok rest
    rw [Spaced.text, hform, skipKey]
    simp only [List.append_assoc, List.cons_append, List.nil_append,
      skipSpace_spacing_cons hbefore (c := '"') (by decide), skipString_inner hinner, if_pos]
    exact skipColon_spacing hbehind rest

/-- Whether some text is passed over as a value, wherever it stands. -/
def IsPassedOver (form : List Char) : Prop :=
  ∀ ⦃spacing rest : List Char⦄, IsSpacing spacing → (IsNumeral form → EndsNumeral rest) →
    ∀ frames, skipFrames .value frames (spacing ++ (form ++ rest)) =
      skipFrames .sequel frames rest

theorem endsNumeral_followed {behind : List Char} (hbehind : IsSpacing behind)
    (texts : List (List Char)) {c : Char} (hc : c ∈ [',', ']', '\x7d']) (rest : List Char) :
    EndsNumeral (behind ++ (followed texts ++ c :: rest)) := by
  cases texts with
  | nil => exact .spacing hbehind (.mark hc rest)
  | cons text texts => exact .spacing hbehind (.mark (by decide) _)

variable {frame : Frame} {parts : List Part}

/-- What follows a value inside a list or an object is passed over up to the closing mark. The
induction is on the items that are still to come. -/
theorem skipFrames_followed (hlabels : ∀ part ∈ parts, frame.IsLabel part.label)
    (hspaced : ∀ part ∈ parts, part.value.IsSpaced)
    (hpassed : ∀ part ∈ parts, IsPassedOver part.value.form) {behind : List Char}
    (hbehind : IsSpacing behind) (frames : List Frame) (rest : List Char) :
    skipFrames .sequel (frame :: frames)
        (behind ++ (followed (parts.map Part.text) ++ frame.closer :: rest)) =
      skipFrames .sequel frames rest := by
  have hcloser : frame.closer ∈ [',', ']', '\x7d'] := by cases frame <;> decide
  induction parts generalizing behind with
  | nil =>
    have hproceed : frame.proceed (behind ++ frame.closer :: rest) = .ok (.sequel, rest) := by
      rw [Frame.proceed, skipSpace_spacing_cons hbehind frame.isSpace_closer]
      cases frame <;> rfl
    exact skipFrames_proceed hproceed frames
  | cons part parts ih =>
    obtain ⟨hlabel, hlabels⟩ := List.forall_mem_cons.1 hlabels
    obtain ⟨hpart, hspaced⟩ := List.forall_mem_cons.1 hspaced
    obtain ⟨hvalue, hpassed⟩ := List.forall_mem_cons.1 hpassed
    have hproceed : frame.proceed (behind ++ ',' :: (part.label ++ (part.value.before ++
        (part.value.form ++ (part.value.behind ++
          (followed (parts.map Part.text) ++ frame.closer :: rest)))))) =
        .ok (.value, part.value.before ++ (part.value.form ++ (part.value.behind ++
          (followed (parts.map Part.text) ++ frame.closer :: rest)))) := by
      rw [Frame.proceed, skipSpace_spacing_cons hbehind (by decide)]
      simp only [if_pos, Frame.toItem, Frame.skipLabel_label hlabel]
      rfl
    have hnext := skipFrames_proceed hproceed frames
    rw [Due.push, hvalue hpart.before fun _ => endsNumeral_followed hpart.behind _ hcloser rest,
      ih hlabels hspaced hpassed hpart.behind] at hnext
    simpa [followed, Part.text, Spaced.text] using hnext

/-- From the opening the machine goes on to the value of the first item. -/
theorem Frame.enter_part {part : Part} (hlabel : frame.IsLabel part.label)
    (hspaced : part.value.IsSpaced) (hvalue : IsValue part.value.form) {spacing : List Char}
    (hspacing : IsSpacing spacing) (rest : List Char) :
    ∃ before, IsSpacing before ∧ frame.enter (spacing ++ (part.text ++ rest)) =
      .ok (.value, before ++ (part.value.form ++ (part.value.behind ++ rest))) := by
  cases frame with
  | list =>
    obtain ⟨c, cs, hform, hspace, hne⟩ := hvalue.exists_token
    have hlabel : part.label = [] := hlabel
    have hskip : skipSpace (spacing ++ (part.text ++ rest)) =
        c :: (cs ++ (part.value.behind ++ rest)) := by
      have := skipSpace_spacing_cons (hspacing.append hspaced.before) hspace
        (cs ++ (part.value.behind ++ rest))
      simpa [Part.text, hlabel, Spaced.text, hform] using this
    refine ⟨[], .nil, ?_⟩
    rw [enter, hskip, hform]
    exact if_neg hne
  | object =>
    obtain ⟨name, hname, hquoted, hlabel⟩ := hlabel
    obtain ⟨inner, -, hform⟩ := hquoted.exists_inner
    -- the key without the white space in front of it is a label as well
    have hbare : object.IsLabel (name.form ++ name.behind ++ [':']) :=
      ⟨{ name with before := [] }, ⟨.nil, hname.behind⟩, hquoted, by simp [Spaced.text]⟩
    have hkey := skipLabel_label hbare (part.value.text ++ rest)
    have hskip : skipSpace (spacing ++ (part.text ++ rest)) =
        '"' :: (inner ++ '"' :: (name.behind ++ ':' :: (part.value.text ++ rest))) := by
      have := skipSpace_spacing_cons (hspacing.append hname.before) (c := '"') (by decide)
        (inner ++ '"' :: (name.behind ++ ':' :: (part.value.text ++ rest)))
      simpa [Part.text, hlabel, Spaced.text, hform] using this
    refine ⟨part.value.before, hspaced.before, ?_⟩
    rw [enter, hskip]
    refine (if_neg (by decide)).trans ?_
    rw [hform] at hkey
    simp only [List.append_assoc, List.cons_append, List.nil_append] at hkey
    rw [toItem, hkey]
    simp [Except.map, Spaced.text]

/-- A list or an object is passed over if its items are. -/
theorem isPassedOver_text {spacing : List Char} (hspacing : IsSpacing spacing)
    (hlabels : ∀ part ∈ parts, frame.IsLabel part.label)
    (hspaced : ∀ part ∈ parts, part.value.IsSpaced)
    (hvalues : ∀ part ∈ parts, IsValue part.value.form)
    (hpassed : ∀ part ∈ parts, IsPassedOver part.value.form) :
    IsPassedOver (frame.text spacing parts) := by
  intro before rest hbefore _ frames
  cases parts with
  | nil =>
    have henter : frame.enter (spacing ++ frame.closer :: rest) = .ok (.sequel, rest) := by
      rw [Frame.enter, skipSpace_spacing_cons hspacing frame.isSpace_closer]
      exact if_pos rfl
    simpa [Frame.text, separated, Due.push] using skipFrames_enter hbefore henter frames
  | cons part parts =>
    have hcloser : frame.closer ∈ [',', ']', '\x7d'] := by cases frame <;> decide
    obtain ⟨hlabel, hlabels⟩ := List.forall_mem_cons.1 hlabels
    obtain ⟨hpart, hspaced⟩ := List.forall_mem_cons.1 hspaced
    obtain ⟨hvalue, hpassed⟩ := List.forall_mem_cons.1 hpassed
    obtain ⟨between, hbetween, henter⟩ := Frame.enter_part hlabel hpart
      (hvalues part List.mem_cons_self) hspacing
      (followed (parts.map Part.text) ++ frame.closer :: rest)
    have hstep := skipFrames_enter hbefore henter frames
    rw [Due.push, hvalue hbetween fun _ => endsNumeral_followed hpart.behind _ hcloser rest,
      skipFrames_followed hlabels hspaced hpassed hpart.behind] at hstep
    simpa [Frame.text, separated] using hstep

/-- The items of a list as parts. -/
def Spaced.part (item : Spaced) : Part := ⟨[], item⟩

/-- The members of an object as parts. -/
def Member.part (member : Member) : Part := ⟨member.name.text ++ [':'], member.value⟩

theorem listText_eq (spacing : List Char) (items : List Spaced) :
    listText spacing items = Frame.list.text spacing (items.map Spaced.part) := by
  rw [Frame.text, List.map_map]
  rfl

theorem objectText_eq (spacing : List Char) (members : List Member) :
    objectText spacing members = Frame.object.text spacing (members.map Member.part) := by
  have htext : Part.text ∘ Member.part = Member.text := by
    funext member
    simp [Part.text, Member.part, Member.text]
  rw [Frame.text, List.map_map, htext]
  rfl

theorem isPassedOver_scalar {c : Char} {cs : List Char} (hspace : isSpace c = false)
    (hopening : opening? c = none)
    (hscalar : ∀ rest, (IsNumeral (c :: cs) → EndsNumeral rest) →
      skipScalar (c :: (cs ++ rest)) = .ok rest) : IsPassedOver (c :: cs) := by
  intro spacing rest hspacing hrest frames
  exact skipFrames_scalar hspacing hspace hopening (hscalar rest hrest) frames

/-- A value is passed over up to its end, wherever it stands. -/
theorem IsValue.isPassedOver {form : List Char} (h : IsValue form) : IsPassedOver form := by
  induction h with
  | null =>
    exact isPassedOver_scalar (by decide) (by decide) fun rest _ => skipWord_eq_ok_iff.2 rfl
  | yes =>
    exact isPassedOver_scalar (by decide) (by decide) fun rest _ => skipWord_eq_ok_iff.2 rfl
  | no =>
    exact isPassedOver_scalar (by decide) (by decide) fun rest _ => skipWord_eq_ok_iff.2 rfl
  | numeral hform =>
    obtain ⟨c, cs, rfl, hc⟩ := hform.exists_cons
    obtain ⟨hspace, hlist, -, hobject⟩ := numeral_head hc
    refine isPassedOver_scalar hspace ?_ fun rest hrest => skipScalar_numeral hform (hrest hform)
    rw [opening?, if_neg hlist, if_neg hobject]
  | string hform =>
    obtain ⟨inner, hinner, rfl⟩ := hform.exists_inner
    refine isPassedOver_scalar (by decide) (by decide) fun rest _ => ?_
    rw [List.append_assoc]
    exact skipString_inner hinner rest
  | list hspacing hspaced hitems ih =>
    rw [listText_eq]
    refine isPassedOver_text hspacing ?_ ?_ ?_ ?_ <;> rw [List.forall_mem_map]
    · intro item _
      rfl
    · exact hspaced
    · exact hitems
    · exact ih
  | object hspacing hspaced hnames hvalues ih =>
    rw [objectText_eq]
    refine isPassedOver_text hspacing ?_ ?_ ?_ ?_ <;> rw [List.forall_mem_map]
    · intro member hmember
      exact ⟨member.name, (hspaced member hmember).name, hnames member hmember, rfl⟩
    · intro member hmember
      exact (hspaced member hmember).value
    · exact hvalues
    · exact ih

/-! ## Nothing else can be passed over -/

namespace Frame

theorem eq_append_of_skipLabel {cs rest : List Char} (h : frame.skipLabel cs = .ok rest) :
    ∃ label, frame.IsLabel label ∧ cs = label ++ rest := by
  cases frame with
  | list =>
    cases h
    exact ⟨[], rfl, rfl⟩
  | object =>
    change skipKey cs = .ok rest at h
    rw [skipKey] at h
    split at h
    · contradiction
    · next heq =>
      obtain ⟨before, hbefore, rfl⟩ := exists_spacing_of_eq heq
      split at h
      · next hquote =>
        subst hquote
        split at h
        · contradiction
        · next hstring =>
          obtain ⟨inner, hinner, rfl⟩ := eq_append_of_skipString hstring
          obtain ⟨behind, hbehind, rfl⟩ := eq_append_of_skipColon h
          refine ⟨Spaced.text ⟨before, '"' :: inner ++ ['"'], behind⟩ ++ [':'], ?_, ?_⟩
          · exact ⟨_, ⟨hbefore, hbehind⟩, .quoted hinner, rfl⟩
          · simp [Spaced.text]
      · contradiction

theorem eq_of_toItem {cs rest : List Char} {due : Due} (h : frame.toItem cs = .ok (due, rest)) :
    due = .value ∧ ∃ label, frame.IsLabel label ∧ cs = label ++ rest := by
  obtain ⟨after, hlabel, heq⟩ := exists_of_map_eq_ok h
  cases heq
  exact ⟨rfl, eq_append_of_skipLabel hlabel⟩

/-- Going on from a value leads to the next item behind a comma, or out of the frame. -/
theorem eq_of_proceed {cs rest : List Char} {due : Due} (h : frame.proceed cs = .ok (due, rest)) :
    ∃ behind, IsSpacing behind ∧
      ((due = .sequel ∧ cs = behind ++ frame.closer :: rest) ∨
        due = .value ∧ ∃ label, frame.IsLabel label ∧ cs = behind ++ ',' :: (label ++ rest)) := by
  rw [proceed] at h
  split at h
  · contradiction
  · next c after heq =>
    obtain ⟨behind, hbehind, rfl⟩ := exists_spacing_of_eq heq
    refine ⟨behind, hbehind, ?_⟩
    split at h
    · next hcomma =>
      obtain ⟨rfl, label, hlabel, rfl⟩ := eq_of_toItem h
      exact .inr ⟨rfl, label, hlabel, by rw [hcomma]⟩
    · split at h
      · next hcloser =>
        cases h
        exact .inl ⟨rfl, by rw [hcloser]⟩
      · contradiction

/-- Going on from an opening leads to the first item, or out of the frame. -/
theorem eq_of_enter {cs rest : List Char} {due : Due} (h : frame.enter cs = .ok (due, rest)) :
    ∃ spacing, IsSpacing spacing ∧
      ((due = .sequel ∧ cs = spacing ++ frame.closer :: rest) ∨
        due = .value ∧ ∃ label, frame.IsLabel label ∧ cs = spacing ++ (label ++ rest)) := by
  rw [enter] at h
  split at h
  · contradiction
  · next c after heq =>
    obtain ⟨spacing, hspacing, rfl⟩ := exists_spacing_of_eq heq
    refine ⟨spacing, hspacing, ?_⟩
    split at h
    · next hcloser =>
      cases h
      exact .inl ⟨rfl, by rw [hcloser]⟩
    · obtain ⟨rfl, label, hlabel, heq⟩ := eq_of_toItem h
      exact .inr ⟨rfl, label, hlabel, by rw [heq]⟩

/-- Whether a part is an item of a list or of an object. -/
structure IsPart (frame : Frame) (part : Part) : Prop where
  label : frame.IsLabel part.label
  spaced : part.value.IsSpaced
  value : IsValue part.value.form

theorem exists_items (h : ∀ part ∈ parts, list.IsPart part) :
    ∃ items : List Spaced, items.map Spaced.part = parts ∧ ∀ item ∈ items, item.IsItem := by
  refine ⟨parts.map Part.value, ?_, List.forall_mem_map.2 fun part hpart => ?_⟩
  · rw [List.map_map]
    refine (List.map_congr_left fun part hpart => ?_).trans (List.map_id parts)
    obtain ⟨label, value⟩ := part
    obtain rfl : label = [] := (h _ hpart).label
    rfl
  · exact ⟨(h part hpart).spaced, (h part hpart).value⟩

theorem exists_members (h : ∀ part ∈ parts, object.IsPart part) :
    ∃ members : List Member, members.map Member.part = parts ∧
      ∀ member ∈ members, member.IsWritten := by
  induction parts with
  | nil => exact ⟨[], rfl, by simp⟩
  | cons part parts ih =>
    obtain ⟨⟨⟨name, hname, hquoted, hlabel⟩, hspaced, hvalue⟩, hparts⟩ := List.forall_mem_cons.1 h
    obtain ⟨members, rfl, hmembers⟩ := ih hparts
    refine ⟨⟨name, part.value⟩ :: members, ?_, List.forall_mem_cons.2 ⟨?_, hmembers⟩⟩
    · rw [List.map_cons, Member.part, ← hlabel]
    · exact ⟨⟨hname, hspaced⟩, hquoted, hvalue⟩

/-- Parts between an opening and its closing mark make a value. -/
theorem isValue_text {spacing : List Char} (hspacing : IsSpacing spacing)
    (hparts : ∀ part ∈ parts, frame.IsPart part) : IsValue (frame.text spacing parts) := by
  cases frame with
  | list =>
    obtain ⟨items, rfl, hitems⟩ := exists_items hparts
    rw [← listText_eq]
    exact .of_items hspacing hitems
  | object =>
    obtain ⟨members, rfl, hmembers⟩ := exists_members hparts
    rw [← objectText_eq]
    exact .of_members hspacing hmembers

end Frame

/-- What is left of the open frames, behind a value or in front of one. -/
inductive LeftOpen : Due → List Frame → List Char → Prop where
  | done : LeftOpen .sequel [] []
  | close {frame : Frame} {frames : List Frame} {parts : List Part} {behind rest : List Char}
      (hbehind : IsSpacing behind) (hparts : ∀ part ∈ parts, frame.IsPart part)
      (hrest : LeftOpen .sequel frames rest) :
      LeftOpen .sequel (frame :: frames)
        (behind ++ (followed (parts.map Part.text) ++ frame.closer :: rest))
  | value {frames : List Frame} {before form rest : List Char} (hbefore : IsSpacing before)
      (hform : IsValue form) (hrest : LeftOpen .sequel frames rest) :
      LeftOpen .value frames (before ++ (form ++ rest))

/-- Where the value of an item is due, the item and all that follow it are left of the frame. -/
theorem LeftOpen.exists_parts {frames : List Frame} {label forms : List Char}
    (h : LeftOpen .value (frame :: frames) forms) (hlabel : frame.IsLabel label) :
    ∃ part parts rest, (∀ part' ∈ part :: parts, frame.IsPart part') ∧
      LeftOpen .sequel frames rest ∧
      label ++ forms = part.text ++ (followed (parts.map Part.text) ++ frame.closer :: rest) := by
  obtain _ | _ | @⟨_, before, form, _, hbefore, hform, hrest⟩ := h
  obtain _ | @⟨_, _, parts, behind, rest, hbehind, hparts, hrest⟩ := hrest
  refine ⟨⟨label, before, form, behind⟩, parts, rest, ?_, hrest, ?_⟩
  · exact List.forall_mem_cons.2 ⟨⟨hlabel, ⟨hbefore, hbehind⟩, hform⟩, hparts⟩
  · simp [Part.text, Spaced.text]

/-- What the machine uses up is what was left of the open frames. -/
theorem eq_append_of_skipFrames {due : Due} {frames : List Frame} {cs rest : List Char}
    (h : skipFrames due frames cs = .ok rest) :
    ∃ forms, LeftOpen due frames forms ∧ cs = forms ++ rest := by
  fun_induction skipFrames due frames cs with
  | case1 =>
    cases h
    exact ⟨[], .done, rfl⟩
  | case2 => contradiction
  | case3 cs frame frames due after hproceed ih =>
    obtain ⟨forms, hforms, rfl⟩ := ih h
    obtain ⟨behind, hbehind, ⟨rfl, rfl⟩ | ⟨rfl, label, hlabel, rfl⟩⟩ := Frame.eq_of_proceed hproceed
    · have hclose := hforms.close hbehind (List.forall_mem_nil frame.IsPart)
      exact ⟨_, hclose, by simp [followed]⟩
    · obtain ⟨part, parts, rest, hparts, hrest, heq⟩ := hforms.exists_parts hlabel
      refine ⟨_, hrest.close hbehind hparts, ?_⟩
      rw [← List.append_assoc label, heq]
      simp [followed]
  | case4 => contradiction
  | case5 => contradiction
  | case6 cs frames c token hspace frame hopening due after henter ih =>
    obtain ⟨forms, hforms, rfl⟩ := ih h
    obtain ⟨before, hbefore, rfl⟩ := exists_spacing_of_eq hspace
    obtain rfl := Frame.eq_opener_of_opening? hopening
    obtain ⟨spacing, hspacing, ⟨rfl, rfl⟩ | ⟨rfl, label, hlabel, rfl⟩⟩ := Frame.eq_of_enter henter
    · have hvalue := frame.isValue_text hspacing (List.forall_mem_nil _)
      exact ⟨_, .value hbefore hvalue hforms, by simp [Frame.text, separated]⟩
    · obtain ⟨part, parts, rest, hparts, hrest, heq⟩ := hforms.exists_parts hlabel
      refine ⟨_, .value hbefore (Frame.isValue_text hspacing hparts) hrest, ?_⟩
      rw [← List.append_assoc label, heq]
      simp [Frame.text, separated]
  | case7 => contradiction
  | case8 cs frames c token hspace hopening after hscalar ih =>
    obtain ⟨forms, hforms, rfl⟩ := ih h
    obtain ⟨form, hform, heq⟩ := eq_append_of_skipScalar hscalar
    obtain ⟨before, hbefore, rfl⟩ := exists_spacing_of_eq hspace
    refine ⟨_, .value hbefore hform hforms, ?_⟩
    rw [heq]
    simp

/-- What is passed over as a value is one, behind white space. -/
theorem eq_append_of_skipValue {cs rest : List Char} (h : skipValue cs = .ok rest) :
    ∃ spacing form, IsSpacing spacing ∧ IsValue form ∧ cs = spacing ++ (form ++ rest) := by
  obtain ⟨forms, hforms, rfl⟩ := eq_append_of_skipFrames h
  obtain _ | _ | @⟨_, before, form, _, hbefore, hform, hrest⟩ := hforms
  cases hrest
  exact ⟨before, form, hbefore, hform, by simp⟩

/-- A value is passed over, whatever follows, unless it is a number that goes on. -/
theorem IsValue.skipValue_append {form spacing rest : List Char} (h : IsValue form)
    (hspacing : IsSpacing spacing) (hrest : IsNumeral form → EndsNumeral rest) :
    skipValue (spacing ++ (form ++ rest)) = .ok rest := by
  rw [skipValue, h.isPassedOver hspacing hrest, skipFrames]

end UnitLint.Json
