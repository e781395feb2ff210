import UnitLint.Proofs.Json.Extent

/-!
# What readers make of values

What a reader makes of a value depends on nothing that stands around it: not on the white space in
front, and not on what follows. So the outcome of reading an object can be told from what is read of
its members, and where one of them cannot be read, neither can the object.
-/

namespace UnitLint.Json

variable {α σ : Type}

theorem toOption_map {ε α β : Type} (f : α → β) (result : Except ε α) :
    (result.map f).toOption = result.toOption.map f := by
  cases result <;> rfl

theorem toOption_eq_some_iff {ε α : Type} {result : Except ε α} {value : α} :
    result.toOption = some value ↔ result = .ok value := by
  cases result <;> simp [Except.toOption]

theorem toOption_eq_none_iff {ε α : Type} {result : Except ε α} :
    result.toOption = none ↔ ∃ error, result = .error error := by
  cases result <;> simp [Except.toOption]

/-! ## Readers -/

namespace Reader

/-- Whether reading gives this and no other result for a value, wherever it stands. -/
def Gives (reader : Reader α) (form : List Char) (value? : Option α) : Prop :=
  ∀ ⦃spacing rest⦄, IsSpacing spacing → (IsNumeral form → EndsNumeral rest) →
    (reader.read (spacing ++ (form ++ rest))).toOption = value?.map (·, rest)

/-- What is read of a text that holds one value. -/
def value? (reader : Reader α) (form : List Char) : Option α :=
  (reader.read form).toOption.map Prod.fst

/-- Whether what is read of a value depends on it alone. -/
def IsLocal (reader : Reader α) : Prop :=
  ∀ ⦃form⦄, IsValue form → reader.Gives form (reader.value? form)

theorem Gives.value?_eq {reader : Reader α} {form : List Char} {found? : Option α}
    (h : reader.Gives form found?) : reader.value? form = found? := by
  have hread := h .nil fun _ => EndsNumeral.nil
  rw [List.nil_append, List.append_nil] at hread
  rw [value?, hread, Option.map_map]
  exact Option.map_id'

theorem IsLocal.of_gives {reader : Reader α}
    (h : ∀ form, IsValue form → ∃ found?, reader.Gives form found?) : reader.IsLocal := by
  intro form hform
  obtain ⟨found?, hgives⟩ := h form hform
  exact hgives.value?_eq.symm ▸ hgives

/-- Reading a value stops where the value does. -/
theorem IsLocal.rest_eq {reader : Reader α} (h : reader.IsLocal)
    {spacing form rest rest' : List Char} (hspacing : IsSpacing spacing) (hform : IsValue form)
    (hrest : IsNumeral form → EndsNumeral rest) {value : α}
    (hread : reader.read (spacing ++ (form ++ rest)) = .ok (value, rest')) :
    rest' = rest := by
  have hgives := h hform hspacing hrest
  rw [hread] at hgives
  obtain ⟨_, -, heq⟩ := Option.map_eq_some_iff.1 hgives.symm
  exact (Prod.mk.inj heq).2.symm

theorem IsLocal.read_eq_ok {reader : Reader α} (h : reader.IsLocal) {form : List Char}
    (hform : IsValue form) {value : α} (hvalue : reader.value? form = some value) :
    reader.read form = .ok (value, []) := by
  have hread := h hform .nil fun _ => EndsNumeral.nil
  rw [List.nil_append, List.append_nil, hvalue] at hread
  exact toOption_eq_some_iff.1 hread

end Reader

/-! ## Texts -/

namespace Reader

/-- A text is read if white space is all that is left of it behind a value. -/
theorem readText_eq_ok_iff {reader : Reader α} {text : String} {value : α} :
    reader.readText text = .ok value ↔
      ∃ rest, reader.read text.toList = .ok (value, rest) ∧ IsSpacing rest := by
  rw [Reader.readText, readWhole]
  cases hread : reader.read text.toList with
  | error fault => simp [Except.mapError]
  | ok found =>
    obtain ⟨found, rest⟩ := found
    simp only [← skipSpace_eq_nil_iff]
    cases hrest : skipSpace rest with
    | nil => simp [Except.mapError, hrest]
    | cons c cs => simp [Except.mapError, hrest]

/-- What is read of a text that holds one value is what is read of the value. -/
theorem IsLocal.readText {reader : Reader α} (h : reader.IsLocal) {text : String}
    {before form behind : List Char} (hbefore : IsSpacing before) (hform : IsValue form)
    (hbehind : IsSpacing behind) (htext : text.toList = before ++ (form ++ behind)) :
    (reader.readText text).toOption = reader.value? form := by
  have hends : EndsNumeral behind := by simpa using EndsNumeral.spacing hbehind .nil
  have hread := h hform hbefore fun _ => hends
  rw [← htext] at hread
  refine Option.ext fun value => ?_
  rw [toOption_eq_some_iff, readText_eq_ok_iff]
  simp only [← toOption_eq_some_iff, hread, Option.map_eq_some_iff, Prod.mk.injEq]
  constructor
  · rintro ⟨_, ⟨_, hvalue, rfl, rfl⟩, -⟩
    exact hvalue
  · intro hvalue
    exact ⟨behind, ⟨value, hvalue, rfl, rfl⟩, hbehind⟩

end Reader

/-! ## Strings -/

/-- The text that a string of the grammar stands for, if it stands for one. -/
def textOf? : List Char → Option String
  | '"' :: inner => (readString inner).toOption.map Prod.fst
  | _ => none

/-- What is read of a string is the text that it spells. -/
theorem readString_inner_iff {inner : List Char} (h : IsStringInner inner) {text : String}
    {rest rest' : List Char} :
    readString (inner ++ '"' :: rest) = .ok (text, rest') ↔
      SpellsString text ('"' :: (inner ++ ['"'])) ∧ rest' = rest := by
  constructor
  · intro hread
    have hrest : rest' = rest := by
      have hskip := skipString_of_readString hread
      rw [skipString_inner h] at hskip
      exact (Except.ok.inj hskip).symm
    obtain ⟨forms, hforms, heq⟩ := eq_append_of_readString hread
    rw [hrest] at heq
    obtain rfl := List.append_cancel_right heq
    exact ⟨.quoted hforms, hrest⟩
  · rintro ⟨hspells, rfl⟩
    obtain ⟨inner', heq, hread⟩ := hspells.exists_readString
    obtain rfl := List.tail_eq_of_cons_eq heq
    simpa using hread rest'

theorem textOf?_eq_some_iff {form : List Char} (h : IsQuoted form) {text : String} :
    textOf? form = some text ↔ SpellsString text form := by
  obtain ⟨inner, hinner, rfl⟩ := h.exists_inner
  rw [textOf?, Option.map_eq_some_iff]
  simp only [toOption_eq_some_iff, Prod.exists, readString_inner_iff hinner]
  constructor
  · rintro ⟨_, _, ⟨hspells, -⟩, rfl⟩
    exact hspells
  · intro hspells
    exact ⟨text, [], ⟨hspells, rfl⟩, rfl⟩

/-- No string spells two texts. -/
theorem SpellsString.unique {first second : String} {form : List Char}
    (hfirst : SpellsString first form) (hsecond : SpellsString second form) : first = second := by
  have hquoted := hfirst.isQuoted
  rw [← textOf?_eq_some_iff hquoted] at hfirst hsecond
  exact Option.some.inj (hfirst.symm.trans hsecond)

/-- A string is read in the same way whatever follows. -/
theorem toOption_readString {inner : List Char} (h : IsStringInner inner) (rest : List Char) :
    (readString (inner ++ '"' :: rest)).toOption =
      (textOf? ('"' :: (inner ++ ['"']))).map (·, rest) := by
  refine Option.ext fun found => ?_
  obtain ⟨text, rest'⟩ := found
  have hquoted : IsQuoted ('"' :: (inner ++ ['"'])) := .quoted h
  simp only [toOption_eq_some_iff, readString_inner_iff h, Option.map_eq_some_iff, Prod.mk.injEq,
    textOf?_eq_some_iff hquoted]
  constructor
  · rintro ⟨hspells, rfl⟩
    exact ⟨text, hspells, rfl, rfl⟩
  · rintro ⟨_, hspells, rfl, rfl⟩
    exact ⟨hspells, rfl⟩

/-! ## Strings that may be absent -/

theorem nullableString_gives_none {c : Char} {cs : List Char} (hspace : isSpace c = false)
    (hnull : c ≠ 'n') (hquote : c ≠ '"') : nullableString.Gives (c :: cs) none := by
  intro spacing rest hspacing _
  change (readNullableString _).toOption = none
  rw [readNullableString, List.cons_append, skipSpace_spacing_cons hspacing hspace]
  simp [hnull, hquote, Except.toOption]

theorem nullableString_gives_string {form : List Char} (h : IsQuoted form) :
    nullableString.Gives form ((textOf? form).map some) := by
  intro spacing rest hspacing _
  obtain ⟨inner, hinner, rfl⟩ := h.exists_inner
  change (readNullableString _).toOption = _
  rw [readNullableString, List.cons_append, skipSpace_spacing_cons hspacing (by decide)]
  have hread := toOption_readString hinner rest
  simp [toOption_map, hread, Function.comp_def]

theorem nullableString_isLocal : nullableString.IsLocal := by
  refine .of_gives fun form hform => ?_
  cases hform with
  | null =>
    refine ⟨some none, fun spacing rest hspacing _ => ?_⟩
    have hread := nullableString_reads .null spacing hspacing rest
    rw [← List.append_assoc, hread]
    rfl
  | string hquoted => exact ⟨_, nullableString_gives_string hquoted⟩
  | numeral hnumeral =>
    obtain ⟨c, cs, rfl, hc⟩ := hnumeral.exists_cons
    have hne : ∀ d, Text.isDigit d = false → d ≠ '-' → c ≠ d := by
      rintro d hdigit hminus rfl
      rcases hc with hc | hc
      · exact hminus hc
      · rw [hdigit] at hc
        contradiction
    exact ⟨none, nullableString_gives_none (numeral_head hc).1 (hne 'n' rfl (by decide))
      (hne '"' rfl (by decide))⟩
  | yes | no | list | object =>
    exact ⟨none, nullableString_gives_none (by decide) (by decide) (by decide)⟩

/-- Of the values, the word for absence and the strings with a text are what can be read. -/
theorem nullableString_value?_eq_some_iff {form : List Char} (h : IsValue form)
    {text? : Option String} :
    nullableString.value? form = some text? ↔ SpellsNullable text? form := by
  constructor
  · intro hvalue
    have hread : readNullableString form = .ok (text?, []) :=
      nullableString_isLocal.read_eq_ok h hvalue
    obtain ⟨spacing, form', hspacing, hform', heq⟩ := eq_append_of_readNullableString hread
    obtain rfl : spacing = [] := by
      obtain ⟨c, cs, hcons, hspace, -⟩ := h.exists_token
      cases spacing with
      | nil => rfl
      | cons first others =>
        rw [hcons, List.cons_append, List.cons.injEq] at heq
        have := (isSpace_iff first).2 (hspacing first List.mem_cons_self)
        rw [← heq.1, hspace] at this
        contradiction
    simpa [heq] using hform'
  · intro hspells
    have hread := nullableString_reads hspells [] .nil []
    rw [List.nil_append, List.append_nil] at hread
    rw [Reader.value?, hread]
    rfl

theorem nullableString_value?_eq_none {form : List Char} (h : IsValue form)
    (hnot : ∀ text?, ¬SpellsNullable text? form) : nullableString.value? form = none := by
  rw [Option.eq_none_iff_forall_ne_some]
  intro text? hvalue
  exact hnot text? ((nullableString_value?_eq_some_iff h).1 hvalue)

/-! ## Members -/

namespace MemberReader

/-- Whether taking up a member leads to this and no other state, wherever the member stands. -/
def Gives (reader : MemberReader σ) (before : σ) (key : String) (form : List Char)
    (after? : Option σ) : Prop :=
  ∀ ⦃behind spacing rest⦄, IsSpacing behind → IsSpacing spacing →
    (IsNumeral form → EndsNumeral rest) →
    (reader.read before key (behind ++ ':' :: (spacing ++ (form ++ rest)))).toOption =
      after?.map (·, rest)

/-- What a member with some key and value leads to. -/
def takeUp? (reader : MemberReader σ) (before : σ) (key : String) (form : List Char) : Option σ :=
  (reader.read before key (':' :: form)).toOption.map Prod.fst

/-- Whether what a member leads to depends on it alone. -/
def IsLocal (reader : MemberReader σ) : Prop :=
  ∀ before key ⦃form⦄, IsValue form → reader.Gives before key form (reader.takeUp? before key form)

theorem Gives.takeUp?_eq {reader : MemberReader σ} {before : σ} {key : String} {form : List Char}
    {after? : Option σ} (h : reader.Gives before key form after?) :
    reader.takeUp? before key form = after? := by
  have hread := h .nil .nil fun _ => EndsNumeral.nil
  rw [List.nil_append, List.nil_append, List.append_nil] at hread
  rw [takeUp?, hread, Option.map_map]
  exact Option.map_id'

theorem IsLocal.of_gives {reader : MemberReader σ}
    (h : ∀ before key form, IsValue form → ∃ after?, reader.Gives before key form after?) :
    reader.IsLocal := by
  intro before key form hform
  obtain ⟨after?, hgives⟩ := h before key form hform
  exact hgives.takeUp?_eq.symm ▸ hgives

/-- What a written member leads to. Its name has to stand for a text. -/
def member? (reader : MemberReader σ) (before : σ) (member : Member) : Option σ :=
  (textOf? member.name.form).bind fun key => reader.takeUp? before key member.value.form

end MemberReader

theorem toOption_readKey {form : List Char} (h : IsQuoted form) (rest : List Char) :
    (readKey (form ++ rest)).toOption = (textOf? form).map fun key => (some key, rest) := by
  obtain ⟨inner, hinner, rfl⟩ := h.exists_inner
  have hread := toOption_readString hinner rest
  rw [List.cons_append, List.append_assoc, List.singleton_append, readKey, toOption_map, hread,
    Option.map_map]
  rfl

theorem toOption_nextKey {isFirst : Bool} {opening before form : List Char}
    (hopening : SpellsOpening isFirst opening) (hbefore : IsSpacing before) (hform : IsQuoted form)
    (rest : List Char) :
    (nextKey isFirst (opening ++ (before ++ (form ++ rest)))).toOption =
      (textOf? form).map fun key => (some key, rest) := by
  rw [← toOption_readKey hform rest]
  obtain ⟨inner, -, rfl⟩ := hform.exists_inner
  rw [List.cons_append]
  cases hopening with
  | first =>
    rw [nextKey, List.nil_append, skipSpace_spacing_cons hbefore (by decide)]
    rfl
  | comma hspacing =>
    rw [nextKey, List.append_assoc, List.singleton_append,
      skipSpace_spacing_cons hspacing (by decide)]
    simp [skipSpace_spacing_cons hbefore (c := '"') (by decide)]

theorem toOption_readMembers (reader : MemberReader σ) (isFirst : Bool) (before : σ)
    (cs : List Char) :
    (readMembers reader isFirst before cs).toOption =
      (nextKey isFirst cs).toOption.bind fun
        | (none, rest) => some (before, rest)
        | (some key, rest) => (reader.read before key rest).toOption.bind fun (after, rest) =>
          (readMembers reader false after rest).toOption := by
  rw [readMembers]
  split
  · next hkey => simp [hkey, Except.toOption]
  · next hkey => simp [hkey, Except.toOption]
  · next hkey =>
    split
    · next hmember => simp [hkey, hmember, Except.toOption]
    · next hmember => simp [hkey, hmember, Except.toOption]

/-- In front of the first text that remains in a row stands what may stand there. -/
theorem exists_opening (isFirst : Bool) {spacing before : List Char} (hspacing : IsSpacing spacing)
    (hbefore : IsSpacing before) (token : List Char) (texts : List (List Char)) :
    ∃ opening before', SpellsOpening isFirst opening ∧ IsSpacing before' ∧
      spacing ++ remaining isFirst ((before ++ token) :: texts) =
        opening ++ (before' ++ (token ++ followed texts)) := by
  cases isFirst with
  | true =>
    refine ⟨[], spacing ++ before, .first, hspacing.append hbefore, ?_⟩
    simp [remaining, separated]
  | false =>
    refine ⟨spacing ++ [','], before, .comma hspacing, hbefore, ?_⟩
    simp [remaining, followed]

/-- Members are taken up one after the other, and where one cannot be, nothing is read. -/
theorem MemberReader.IsLocal.readMembers {reader : MemberReader σ} (h : reader.IsLocal)
    {members : List Member} (hmembers : ∀ member ∈ members, member.IsWritten)
    {spacing : List Char} (hspacing : IsSpacing spacing) (isFirst : Bool) (before : σ)
    (rest : List Char) :
    (Json.readMembers reader isFirst before
        (spacing ++ (remaining isFirst (members.map Member.text) ++ '\x7d' :: rest))).toOption =
      (members.foldlM reader.member? before).map (·, rest) := by
  induction members generalizing spacing isFirst before with
  | nil =>
    rw [List.map_nil, remaining_nil, List.nil_append, readMembers_close reader isFirst hspacing]
    rfl
  | cons member members ih =>
    obtain ⟨⟨⟨hname, hvalue⟩, hquoted, hform⟩, hmembers⟩ := List.forall_mem_cons.1 hmembers
    obtain ⟨opening, nameBefore, hopening, hnameBefore, heq⟩ :=
      exists_opening isFirst hspacing hname.before
        (member.name.form ++ (member.name.behind ++ ':' :: member.value.text))
        (members.map Member.text)
    have htext : spacing ++ (remaining isFirst ((member :: members).map Member.text) ++
          '\x7d' :: rest) =
        opening ++ (nameBefore ++ (member.name.form ++ (member.name.behind ++
          ':' :: (member.value.before ++ (member.value.form ++ (member.value.behind ++
            (remaining false (members.map Member.text) ++ '\x7d' :: rest))))))) := by
      have := congrArg (· ++ '\x7d' :: rest) heq
      simpa [Member.text, Spaced.text, remaining] using this
    have hends : EndsNumeral (member.value.behind ++
        (remaining false (members.map Member.text) ++ '\x7d' :: rest)) :=
      endsNumeral_followed hvalue.behind _ (by decide) rest
    rw [htext, toOption_readMembers, toOption_nextKey hopening hnameBefore hquoted,
      List.foldlM_cons, member?]
    cases textOf? member.name.form with
    | none => rfl
    | some key =>
      simp only [Option.map_some, Option.bind_some,
        h before key hform hname.behind hvalue.before fun _ => hends]
      cases reader.takeUp? before key member.value.form with
      | none => rfl
      | some after => exact ih hmembers hvalue.behind false after

/-- Behind its opening, an object is read by taking up its members. -/
theorem MemberReader.IsLocal.object {reader : MemberReader σ} (h : reader.IsLocal)
    {spacing : List Char} (hspacing : IsSpacing spacing) {members : List Member}
    (hmembers : ∀ member ∈ members, member.IsWritten) (before : σ) (rest : List Char) :
    ∃ inner, objectText spacing members ++ rest = '\x7b' :: inner ∧
      (Json.readMembers reader true before inner).toOption =
        (members.foldlM reader.member? before).map (·, rest) := by
  refine ⟨_, ?_, h.readMembers hmembers hspacing true before rest⟩
  simp [objectText, remaining]

/-! ## Objects as lists of their members -/

namespace Reader

theorem toOption_readBehindColon (item : Reader α) {behind : List Char} (hbehind : IsSpacing behind)
    (rest : List Char) :
    (item.readBehindColon (behind ++ ':' :: rest)).toOption = (item.read rest).toOption := by
  rw [readBehindColon, skipColon_spacing hbehind]

/-- The pair that is read of a member, if its name and its value can be read. -/
def pair? (item : Reader α) (member : Member) : Option (String × α) :=
  (textOf? member.name.form).bind fun key =>
    (item.value? member.value.form).map fun value => (key, value)

theorem pair_gives {item : Reader α} (hitem : item.IsLocal) (before : List (String × α))
    (key : String) {form : List Char} (hform : IsValue form) :
    item.pair.Gives before key form
      ((item.value? form).map fun value => (key, value) :: before) := by
  intro behind spacing rest hbehind hspacing hrest
  change ((item.readBehindColon _).map _).toOption = _
  rw [toOption_map, item.toOption_readBehindColon hbehind, hitem hform hspacing hrest,
    Option.map_map, Option.map_map]
  rfl

theorem pair_isLocal {item : Reader α} (hitem : item.IsLocal) : item.pair.IsLocal :=
  .of_gives fun before key _ hform => ⟨_, pair_gives hitem before key hform⟩

theorem foldlM_pair {item : Reader α} (hitem : item.IsLocal) {members : List Member}
    (hmembers : ∀ member ∈ members, member.IsWritten) (before : List (String × α)) :
    members.foldlM item.pair.member? before =
      (members.mapM item.pair?).map fun pairs => pairs.reverse ++ before := by
  induction members generalizing before with
  | nil => rfl
  | cons member members ih =>
    obtain ⟨hmember, hmembers⟩ := List.forall_mem_cons.1 hmembers
    rw [List.foldlM_cons, List.mapM_cons, MemberReader.member?, pair?]
    cases textOf? member.name.form with
    | none => rfl
    | some key =>
      have htake := (pair_gives hitem before key hmember.value).takeUp?_eq
      rw [Option.bind_some, Option.bind_some, htake]
      cases item.value? member.value.form with
      | none => rfl
      | some value =>
        simp only [Option.map_some, Option.bind_eq_bind, Option.bind_some, ih hmembers]
        cases members.mapM item.pair? <;> simp

/-- The pairs of an object are those of its members, in order. -/
theorem pairs_gives_object {item : Reader α} (hitem : item.IsLocal) {spacing : List Char}
    (hspacing : IsSpacing spacing) {members : List Member}
    (hmembers : ∀ member ∈ members, member.IsWritten) :
    item.pairs.Gives (objectText spacing members) (members.mapM item.pair?) := by
  intro before rest hbefore _
  obtain ⟨inner, heq, hread⟩ := (pair_isLocal hitem).object hspacing hmembers [] rest
  change (item.readPairs _).toOption = _
  rw [readPairs, heq, skipSpace_spacing_cons hbefore (by decide)]
  simp [toOption_map, hread, foldlM_pair hitem hmembers, Function.comp_def]

/-- Of a value that is no object no pairs are read. -/
theorem pairs_gives_none (item : Reader α) {form : List Char} (hform : IsValue form)
    (hobject : ¬IsObject form) : item.pairs.Gives form none := by
  obtain ⟨c, cs, rfl, hspace, hne⟩ : ∃ c cs, form = c :: cs ∧ isSpace c = false ∧ c ≠ '\x7b' := by
    obtain hisObject | ⟨spacing, items, -, -, rfl⟩ | ⟨c, cs, rfl, hspace, -, hne⟩ :=
      hform.isObject_or_isList
    · exact absurd hisObject hobject
    · exact ⟨_, _, rfl, by decide⟩
    · exact ⟨c, cs, rfl, hspace, hne⟩
  intro spacing rest hspacing _
  change (item.readPairs _).toOption = none
  rw [readPairs, List.cons_append, skipSpace_spacing_cons hspacing hspace]
  simp [hne, Except.toOption]

theorem pairs_isLocal {item : Reader α} (hitem : item.IsLocal) : item.pairs.IsLocal := by
  refine .of_gives fun form hform => ?_
  by_cases hobject : IsObject form
  · obtain ⟨spacing, members, hspacing, hmembers, rfl⟩ := hobject
    exact ⟨_, pairs_gives_object hitem hspacing hmembers⟩
  · exact ⟨none, pairs_gives_none item hform hobject⟩

theorem pair?_eq_none {item : Reader α} {member : Member}
    (h : item.value? member.value.form = none) : item.pair? member = none := by
  rw [pair?, h]
  cases textOf? member.name.form <;> rfl

end Reader

/-! ## Items -/

theorem nextItem_opening {isFirst : Bool} {opening before : List Char}
    (hopening : SpellsOpening isFirst opening) (hbefore : IsSpacing before) {c : Char}
    (hspace : isSpace c = false) (hc : c ≠ ']') (rest : List Char) :
    nextItem isFirst (opening ++ (before ++ c :: rest)) = .ok (true, c :: rest) := by
  cases hopening with
  | first =>
    rw [nextItem, List.nil_append, skipSpace_spacing_cons hbefore hspace]
    simp [hc]
  | comma hspacing =>
    rw [nextItem, List.append_assoc, List.singleton_append,
      skipSpace_spacing_cons hspacing (by decide)]
    simp [skipSpace_spacing_cons hbefore hspace, hc]

/-- A list does not end in front of a comma. -/
theorem toOption_closeList_comma {spacing : List Char} (h : IsSpacing spacing) (rest : List Char) :
    (closeList (spacing ++ ',' :: rest)).toOption = none := by
  rw [closeList, skipSpace_spacing_cons h (by decide)]
  refine toOption_eq_none_iff.2 ?_
  simp only [if_pos]
  rw [if_neg (by decide)]
  split <;> exact ⟨_, rfl⟩

namespace Reader

theorem readItem_close (item : Reader α) (isFirst : Bool) {spacing : List Char}
    (h : IsSpacing spacing) (rest : List Char) :
    item.readItem isFirst (spacing ++ ']' :: rest) = .ok (none, ']' :: rest) := by
  rw [readItem, nextItem, skipSpace_spacing_cons h (by decide)]
  rfl

/-- The first of the items that remain is read, and the others remain. -/
theorem IsLocal.readItem {item : Reader α} (h : item.IsLocal) (isFirst : Bool)
    {spacing : List Char} (hspacing : IsSpacing spacing) {piece : Spaced} (hpiece : piece.IsItem)
    (pieces : List Spaced) (rest : List Char) :
    (item.readItem isFirst (spacing ++
        (remaining isFirst ((piece :: pieces).map Spaced.text) ++ ']' :: rest))).toOption =
      (item.value? piece.form).map fun value => (some value,
        piece.behind ++ (remaining false (pieces.map Spaced.text) ++ ']' :: rest)) := by
  obtain ⟨⟨hbefore, hbehind⟩, hform⟩ := hpiece
  obtain ⟨opening, before, hopening, hbefore, heq⟩ := exists_opening isFirst hspacing hbefore
    (piece.form ++ piece.behind) (pieces.map Spaced.text)
  have htext : spacing ++ (remaining isFirst ((piece :: pieces).map Spaced.text) ++ ']' :: rest) =
      opening ++ (before ++ (piece.form ++
        (piece.behind ++ (remaining false (pieces.map Spaced.text) ++ ']' :: rest)))) := by
    have := congrArg (· ++ ']' :: rest) heq
    simpa [Spaced.text, remaining] using this
  have hends : EndsNumeral (piece.behind ++
      (remaining false (pieces.map Spaced.text) ++ ']' :: rest)) :=
    endsNumeral_followed hbehind _ (by decide) rest
  have hread := h hform .nil fun _ => hends
  obtain ⟨c, cs, hcons, hspace, hc⟩ := hform.exists_token
  rw [htext, hcons, List.cons_append, Reader.readItem,
    nextItem_opening hopening hbefore hspace hc]
  rw [hcons, List.nil_append, List.cons_append] at hread
  simp [toOption_map, hread, Function.comp_def]

end Reader

end UnitLint.Json
