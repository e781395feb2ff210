import UnitLint.Proofs.Text.Spans
import UnitLint.Uri.Basic

/-!
# Characters of addresses

Which characters of a text belong to the address that it is, and where the scheme of an address
ends. The characters that do not belong are all spaces or control characters: at the ends any of
them, elsewhere the tabs and line breaks. In front of the first colon and behind it they can be
left out separately, because a colon always belongs. The case of letters is never looked at.
-/

namespace UnitLint.Uri

theorem isControlOrSpace_iff (c : Char) : isControlOrSpace c ↔ c.toNat ≤ ' '.toNat := by
  rw [isControlOrSpace, decide_eq_true_eq, Text.le_iff_toNat_le]

theorem isControlOrSpace_of_isPassedOver {c : Char} (h : isPassedOver c) : isControlOrSpace c := by
  simp only [isPassedOver, Bool.or_eq_true, beq_iff_eq] at h
  rcases h with (rfl | rfl) | rfl <;> decide

theorem isPassedOver_eq_false {c : Char} (h : isControlOrSpace c = false) :
    isPassedOver c = false := by
  by_contra hpassed
  rw [Bool.not_eq_false] at hpassed
  rw [isControlOrSpace_of_isPassedOver hpassed] at h
  contradiction

theorem isLetter_iff (c : Char) :
    isLetter c ↔ 'a'.toNat ≤ c.toNat ∧ c.toNat ≤ 'z'.toNat ∨
      'A'.toNat ≤ c.toNat ∧ c.toNat ≤ 'Z'.toNat := by
  simp only [isLetter, Bool.or_eq_true, Bool.and_eq_true, decide_eq_true_eq, Text.le_iff_toNat_le]

theorem isSchemeChar_of_isLetter {c : Char} (h : isLetter c) : isSchemeChar c := by
  simp [isSchemeChar, h]

theorem isSchemeChar_colon : isSchemeChar ':' = false := by decide

/-- Case does not make a letter. -/
theorem isLetter_toLower (c : Char) : isLetter c.toLower = isLetter c := by
  rw [Bool.eq_iff_iff, isLetter_iff, isLetter_iff, Text.toNat_toLower]
  simp only [Char.reduceToNat]
  split <;> omega

theorem toLower_eq_self {c : Char} (h : isLetter c = false) : c.toLower = c := by
  rw [← Bool.not_eq_true, isLetter_iff] at h
  rw [← Char.toNat_inj, Text.toNat_toLower, if_neg fun hcapital => h (.inr hcapital)]

/-- A kind that has all letters or none does not tell a letter from its small form. -/
theorem kind_comp_toLower {kind : Char → Bool} {value : Bool}
    (h : ∀ c, isLetter c → kind c = value) : kind ∘ Char.toLower = kind := by
  funext c
  show kind c.toLower = kind c
  cases hletter : isLetter c with
  | false => rw [toLower_eq_self hletter]
  | true => rw [h c hletter, h c.toLower (by rw [isLetter_toLower, hletter])]

theorem toLower_eq_iff {c mark : Char} (hmark : isLetter mark = false) :
    c.toLower = mark ↔ c = mark := by
  constructor
  · rintro rfl
    rw [isLetter_toLower] at hmark
    exact (toLower_eq_self hmark).symm
  · rintro rfl
    exact toLower_eq_self hmark

theorem colon_mem_map_toLower_iff {cs : List Char} : ':' ∈ cs.map Char.toLower ↔ ':' ∈ cs := by
  have hcolon : ∀ c : Char, c.toLower = ':' ↔ c = ':' := fun c => toLower_eq_iff (by decide)
  simp only [List.mem_map, hcolon, exists_eq_right]

/-! ## Leaving characters out -/

/-- The characters that are left where a text begins but ends in the middle of an address. -/
def charsInFront (cs : List Char) : List Char :=
  (cs.dropWhile isControlOrSpace).filter (!isPassedOver ·)

theorem charsInFront_subset (cs : List Char) : charsInFront cs ⊆ cs := by
  intro c hc
  exact (List.dropWhile_suffix isControlOrSpace).subset (List.mem_filter.1 hc).1

/-- The characters that are left where a text ends but begins in the middle of an address. -/
def charsBehind (cs : List Char) : List Char :=
  (cs.rdropWhile isControlOrSpace).filter (!isPassedOver ·)

theorem addressChars_eq (cs : List Char) :
    addressChars cs = charsBehind (cs.dropWhile isControlOrSpace) := rfl

theorem charsBehind_eq_nil_iff {cs : List Char} :
    charsBehind cs = [] ↔ ∀ c ∈ cs, isControlOrSpace c := by
  rw [← List.rdropWhile_eq_nil_iff, charsBehind]
  constructor
  · intro hempty
    by_contra hne
    -- the last character that is kept at the end is no control, so it is not passed over either
    have hlast := List.rdropWhile_last_not isControlOrSpace cs hne
    have hpassed := List.filter_eq_nil_iff.1 hempty _ (List.getLast_mem hne)
    rw [Bool.not_eq_true', Bool.not_eq_false] at hpassed
    exact hlast (isControlOrSpace_of_isPassedOver hpassed)
  · intro hempty
    rw [hempty, List.filter_nil]

/-- Nothing of a text belongs to an address if all of it is spaces and control characters. -/
theorem addressChars_eq_nil_iff {cs : List Char} :
    addressChars cs = [] ↔ ∀ c ∈ cs, isControlOrSpace c := by
  rw [addressChars_eq, charsBehind_eq_nil_iff, ← List.dropWhile_eq_nil_iff,
    ← List.dropWhile_eq_nil_iff, List.dropWhile_idempotent]

theorem mem_of_mem_addressChars {c : Char} {cs : List Char} (h : c ∈ addressChars cs) : c ∈ cs := by
  have hends := (List.rdropWhile_prefix isControlOrSpace _).subset (List.mem_filter.1 h).1
  exact (List.dropWhile_suffix isControlOrSpace).subset hends

/-- A character that belongs to the address parts the text: what is left out in front of it and
behind it are separate matters. -/
theorem addressChars_append_cons {c : Char} (hc : isControlOrSpace c = false)
    (front behind : List Char) :
    addressChars (front ++ c :: behind) =
      charsInFront front ++ c :: charsBehind behind := by
  rw [addressChars_eq, charsBehind, Text.dropWhile_append_cons hc, Text.rdropWhile_append_cons hc,
    List.filter_append, List.filter_cons_of_pos (by rw [isPassedOver_eq_false hc]; rfl),
    charsInFront, charsBehind]

theorem charsBehind_of_forall {cs : List Char} (h : ∀ c ∈ cs, isControlOrSpace c = false) :
    charsBehind cs = cs := by
  rw [charsBehind, Text.rdropWhile_of_forall h, List.filter_eq_self]
  intro c hc
  rw [isPassedOver_eq_false (h c hc)]
  rfl

/-- All of a text without spaces and control characters belongs to the address. -/
theorem addressChars_of_forall {cs : List Char} (h : ∀ c ∈ cs, isControlOrSpace c = false) :
    addressChars cs = cs := by
  rw [addressChars_eq, (Text.EndsSpan.of_forall h).dropWhile_eq_self, charsBehind_of_forall h]

/-! ## The first colon -/

/-- What stands behind the first colon of a text. -/
def behindColon (cs : List Char) : List Char :=
  (cs.dropWhile (· ≠ ':')).drop 1

theorem behindColon_append_cons {front : List Char} (h : ':' ∉ front) (behind : List Char) :
    behindColon (front ++ ':' :: behind) = behind := by
  have hfront : ∀ c ∈ front, decide (c ≠ ':') = true := by
    intro c hc
    rw [decide_eq_true_eq]
    rintro rfl
    exact h hc
  rw [behindColon, Text.dropWhile_span hfront (.cons (by decide) behind)]
  rfl

/-- A text with a colon is parted by its first one. -/
theorem exists_behindColon {cs : List Char} (h : ':' ∈ cs) :
    ∃ front, ':' ∉ front ∧ cs = front ++ ':' :: behindColon cs := by
  obtain ⟨front, behind, rfl, hfront⟩ := List.eq_append_cons_of_mem h
  exact ⟨front, hfront, by rw [behindColon_append_cons hfront]⟩

theorem Scheme.isLetter_of_mem_name (scheme : Scheme) :
    ∀ c ∈ scheme.name.toList, isLetter c := by
  rw [← List.all_eq_true]
  cases scheme <;> decide

/-- An address has a scheme if letters, digits and a few marks stand in front of a colon, a letter
first. -/
theorem splitScheme?_eq_some_iff {cs name rest : List Char} :
    splitScheme? cs = some (name, rest) ↔
      ∃ first others, cs = first :: others ++ ':' :: rest ∧ isLetter first ∧
        (∀ c ∈ others, isSchemeChar c) ∧ name = (first :: others).map Char.toLower := by
  constructor
  · intro h
    cases cs with
    | nil => cases h
    | cons first cs =>
      rw [splitScheme?] at h
      split at h
      · next hletter hdrop =>
        cases h
        have hscheme := isSchemeChar_of_isLetter hletter
        rw [List.dropWhile_cons_of_pos hscheme] at hdrop
        refine ⟨first, cs.takeWhile isSchemeChar, ?_, hletter,
          fun c hc => List.mem_takeWhile_imp hc, ?_⟩
        · rw [List.cons_append, ← hdrop, List.takeWhile_append_dropWhile]
        · rw [List.takeWhile_cons_of_pos hscheme]
      · cases h
  · rintro ⟨first, others, rfl, hletter, hothers, rfl⟩
    have hspan : ∀ c ∈ first :: others, isSchemeChar c :=
      List.forall_mem_cons.2 ⟨isSchemeChar_of_isLetter hletter, hothers⟩
    have hends : Text.EndsSpan isSchemeChar (':' :: rest) := .cons isSchemeChar_colon rest
    have htake := Text.takeWhile_span hspan hends
    have hdrop := Text.dropWhile_span hspan hends
    rw [List.cons_append] at htake hdrop ⊢
    rw [splitScheme?, htake, hdrop, hletter]
    rfl

theorem colon_not_mem {spelled : List Char} (h : ∀ c ∈ spelled, isSchemeChar c) :
    ':' ∉ spelled := by
  intro hmem
  have hcolon := h ':' hmem
  rw [isSchemeChar_colon] at hcolon
  contradiction

/-- Whether a text can be a scheme. -/
def isSchemeName : List Char → Bool
  | [] => false
  | first :: others => isLetter first && others.all isSchemeChar

theorem isSchemeName_map_toLower (cs : List Char) :
    isSchemeName (cs.map Char.toLower) = isSchemeName cs := by
  have hkind : isSchemeChar ∘ Char.toLower = isSchemeChar :=
    kind_comp_toLower fun c hc => isSchemeChar_of_isLetter hc
  cases cs with
  | nil => rfl
  | cons first others =>
    rw [List.map_cons, isSchemeName, isSchemeName, isLetter_toLower, List.all_map, hkind]

/-- An address is split at its first colon, if a scheme stands in front of it. -/
theorem splitScheme?_append_colon {front : List Char} (h : ':' ∉ front) (rest : List Char) :
    splitScheme? (front ++ ':' :: rest) =
      if isSchemeName front then some (front.map Char.toLower, rest) else none := by
  split
  · next hname =>
    cases front with
    | nil => cases hname
    | cons first others =>
      rw [isSchemeName, Bool.and_eq_true, List.all_eq_true] at hname
      exact splitScheme?_eq_some_iff.2 ⟨first, others, rfl, hname.1, hname.2, rfl⟩
  · next hname =>
    rw [Option.eq_none_iff_forall_ne_some]
    rintro ⟨name, rest'⟩ hsplit
    obtain ⟨first, others, hparted, hfirst, hothers, -⟩ := splitScheme?_eq_some_iff.1 hsplit
    have hspelled : ':' ∉ first :: others :=
      colon_not_mem (List.forall_mem_cons.2 ⟨isSchemeChar_of_isLetter hfirst, hothers⟩)
    have hrest := congrArg behindColon hparted
    rw [behindColon_append_cons h, behindColon_append_cons hspelled] at hrest
    subst hrest
    obtain rfl := List.append_cancel_right hparted
    exact hname (by rw [isSchemeName, hfirst, List.all_eq_true.2 hothers, Bool.and_self])

/-- Whatever the case of its letters, the name of a scheme is one. -/
theorem splitScheme?_spelled {spelled : List Char} {scheme : Scheme}
    (h : spelled.map Char.toLower = scheme.name.toList) (rest : List Char) :
    splitScheme? (spelled ++ ':' :: rest) = some (scheme.name.toList, rest) := by
  have hcolon : ':' ∉ spelled := by
    rw [← colon_mem_map_toLower_iff, h]
    cases scheme <;> decide
  have hname : isSchemeName spelled := by
    rw [← isSchemeName_map_toLower, h]
    cases scheme <;> decide
  rw [splitScheme?_append_colon hcolon, if_pos hname, h]

theorem splitScheme?_of_map_toLower {cs : List Char} {scheme : Scheme}
    (h : cs.map Char.toLower = scheme.name.toList ++ [':']) :
    splitScheme? cs = some (scheme.name.toList, []) := by
  obtain ⟨spelled, marks, rfl, hname, hmark⟩ := List.map_eq_append_iff.1 h
  obtain ⟨mark, rfl, hcolon⟩ := List.map_eq_singleton_iff.1 hmark
  obtain rfl := (toLower_eq_iff (by decide)).1 hcolon
  exact splitScheme?_spelled hname []

theorem colon_mem_of_splitScheme? {cs name rest : List Char}
    (h : splitScheme? (addressChars cs) = some (name, rest)) : ':' ∈ cs := by
  obtain ⟨first, others, hchars, -⟩ := splitScheme?_eq_some_iff.1 h
  apply mem_of_mem_addressChars
  rw [hchars]
  exact List.mem_append_right _ List.mem_cons_self

/-- Behind its scheme an address has what stands behind the first colon of the text, but for the
characters that do not belong to it. -/
theorem charsBehind_behindColon {cs name rest : List Char}
    (h : splitScheme? (addressChars cs) = some (name, rest)) :
    rest = charsBehind (behindColon cs) := by
  obtain ⟨first, others, hchars, hletter, hothers, -⟩ := splitScheme?_eq_some_iff.1 h
  have hspelled : ':' ∉ first :: others :=
    colon_not_mem (List.forall_mem_cons.2 ⟨isSchemeChar_of_isLetter hletter, hothers⟩)
  obtain ⟨front, hfront, hcs⟩ := exists_behindColon (colon_mem_of_splitScheme? h)
  have hparted := addressChars_append_cons (c := ':') (by decide) front (behindColon cs)
  rw [← hcs, hchars] at hparted
  have hkept : ':' ∉ charsInFront front := mt (charsInFront_subset front ·) hfront
  have hbehind := congrArg behindColon hparted
  rwa [behindColon_append_cons hspelled, behindColon_append_cons hkept] at hbehind

theorem Scheme.ofName?_eq_some_iff {name : String} {scheme : Scheme} :
    Scheme.ofName? name = some scheme ↔ scheme.name = name := by
  constructor
  · intro h
    simpa using List.find?_some h
  · rintro rfl
    cases scheme <;> decide

/-- A text is an address with a scheme if it has the name of the scheme in front of the colon and
what stands behind it suits the scheme. -/
theorem schemeOf?_eq_some_iff {cs : List Char} {scheme : Scheme} :
    schemeOf? cs = some scheme ↔
      ∃ rest, splitScheme? (addressChars cs) = some (scheme.name.toList, rest) ∧
        isRest scheme rest := by
  simp only [schemeOf?, Option.bind_eq_bind, Option.bind_eq_some_iff]
  constructor
  · rintro ⟨⟨name, rest⟩, hsplit, found, hname, hfound⟩
    split at hfound
    · next hrest =>
      obtain rfl := Option.some.inj hfound
      have hchars := congrArg String.toList (Scheme.ofName?_eq_some_iff.1 hname)
      rw [String.toList_ofList] at hchars
      exact ⟨rest, hchars ▸ hsplit, hrest⟩
    · cases hfound
  · rintro ⟨rest, hsplit, hrest⟩
    refine ⟨(scheme.name.toList, rest), hsplit, scheme, ?_, if_pos hrest⟩
    rw [Scheme.ofName?_eq_some_iff, String.ofList_toList]

end UnitLint.Uri
