import Mathlib.Data.List.Forall2
import UnitLint.Proofs.Json.Grammar
import UnitLint.Proofs.Json.Strings

/-!
# The extent of strings

A string ends at its closing quote, whether it is read or passed over. What can be passed over is a
string of the grammar, and what can be read is the spelling of a text; reading fails on the other
strings, but where it does not, it stops where passing over stops.
-/

namespace UnitLint.Json

/-! ## Passing over a string -/

theorem skipString_escape {escape rest : List Char} (h : skipEscape escape = .ok rest) :
    skipString ('\\' :: escape) = skipString rest := by
  rw [skipString]
  split <;> simp_all

theorem skipEscape_short {letter c : Char} (h : (letter, c) ∈ shortEscapes) (rest : List Char) :
    skipEscape (letter :: rest) = .ok rest := by
  simp only [shortEscapes, List.mem_cons, Prod.mk.injEq, List.not_mem_nil, or_false] at h
  rcases h with h | h | h | h | h | h | h | h <;> obtain ⟨rfl, rfl⟩ := h <;> rfl

theorem skipEscape_unit {unit : Nat} {digits : List Char} (h : SpellsUnit unit digits)
    (rest : List Char) : skipEscape ('u' :: (digits ++ rest)) = .ok rest := by
  rw [skipEscape, readHex_spelled h]
  rfl

theorem skipString_part {part : List Char} (h : IsStringPart part) (rest : List Char) :
    skipString (part ++ rest) = skipString rest := by
  cases h with
  | plain hplain =>
    simp only [isPlain, Bool.and_eq_true, decide_eq_true_eq, bne_iff_ne] at hplain
    obtain ⟨⟨hcontrol, hquote⟩, hbackslash⟩ := hplain
    rw [List.singleton_append, skipString]
    · rw [if_neg (Char.not_lt.2 hcontrol)]
    · exact hquote
    · exact hbackslash
  | short hletter => exact skipString_escape (skipEscape_short hletter rest)
  | unit hdigits => exact skipString_escape (skipEscape_unit hdigits rest)

/-- A string is passed over up to its closing quote. -/
theorem skipString_inner {inner : List Char} (h : IsStringInner inner) (rest : List Char) :
    skipString (inner ++ '"' :: rest) = .ok rest := by
  induction h with
  | nil => rw [List.nil_append, skipString]
  | cons hpart _ ih => rw [List.append_assoc, skipString_part hpart, ih]

/-! ## Hexadecimal digits -/

theorem IsHexDigit.lt {value : Nat} {c : Char} (h : IsHexDigit value c) : value < 16 := by
  rcases h with h | h <;> exact (List.getElem?_eq_some_iff.1 h).1

theorem isHexDigit_of_digit? {value : Nat} {c : Char} (h : Text.digit? 16 c = some value) :
    IsHexDigit value c := by
  have hall : ∀ value : Fin 16,
      "0123456789abcdef".toList[value.val]? = some (Char.ofNat
          (if value.val < 10 then 48 + value.val else 87 + value.val)) ∧
        "0123456789ABCDEF".toList[value.val]? = some (Char.ofNat
          (if value.val < 10 then 48 + value.val else 55 + value.val)) := by decide
  simp only [Text.digit?, Text.le_iff_toNat_le, Option.filter_eq_some_iff, decide_eq_true_eq,
    Char.reduceToNat] at h
  obtain ⟨hvalue, hlt⟩ := h
  obtain ⟨hlower, hupper⟩ := hall ⟨value, hlt⟩
  dsimp only at hlower hupper
  -- in each of the three ranges the code point is told by the value
  rw [IsHexDigit, hlower, hupper, ← Char.ofNat_toNat c]
  split at hvalue
  · have hnat : c.toNat = 48 + value := by
      have := Option.some.inj hvalue
      omega
    left
    rw [hnat, if_pos (by omega)]
  · split at hvalue
    · have hnat : c.toNat = 87 + value := by
        have := Option.some.inj hvalue
        omega
      left
      rw [hnat, if_neg (by omega)]
    · split at hvalue
      · have hnat : c.toNat = 55 + value := by
          have := Option.some.inj hvalue
          omega
        right
        rw [hnat, if_neg (by omega)]
      · contradiction

theorem mapM_eq_some_iff {α β : Type} {f : α → Option β} {as : List α} {bs : List β} :
    as.mapM f = some bs ↔ List.Forall₂ (fun a b => f a = some b) as bs := by
  induction as generalizing bs with
  | nil =>
    rw [List.mapM_nil, List.forall₂_nil_left_iff]
    exact Option.some_inj.trans eq_comm
  | cons a as ih =>
    simp only [List.mapM_cons, List.forall₂_cons_left_iff, ← ih]
    cases f a <;> cases as.mapM f <;> simp [eq_comm]

/-- Where one step has no result, all of them together have none. -/
theorem mapM_eq_none {α β : Type} {f : α → Option β} {as : List α} {a : α} (hmem : a ∈ as)
    (hnone : f a = none) : as.mapM f = none := by
  induction as with
  | nil => contradiction
  | cons first as ih =>
    rw [List.mapM_cons]
    rcases List.mem_cons.1 hmem with rfl | hmem
    · rw [hnone]
      rfl
    · rw [ih hmem]
      cases f first <;> rfl

theorem eq_append_of_readHex {cs rest : List Char} {code : Nat}
    (h : readHex cs = .ok (code, rest)) :
    ∃ digits, SpellsUnit code digits ∧ cs = digits ++ rest := by
  unfold readHex at h
  split at h
  · next a b c d after =>
    split at h
    · next hnumeral =>
      cases h
      obtain ⟨values, hvalues, hcode⟩ := Option.map_eq_some_iff.1 hnumeral
      rw [mapM_eq_some_iff] at hvalues
      obtain ⟨av, _, ha, hbcd, rfl⟩ := List.forall₂_cons_left_iff.1 hvalues
      obtain ⟨bv, _, hb, hcd, rfl⟩ := List.forall₂_cons_left_iff.1 hbcd
      obtain ⟨cv, _, hc, hrest, rfl⟩ := List.forall₂_cons_left_iff.1 hcd
      obtain ⟨dv, _, hd, hnil, rfl⟩ := List.forall₂_cons_left_iff.1 hrest
      obtain rfl := List.forall₂_nil_left_iff.1 hnil
      replace ha := isHexDigit_of_digit? ha
      replace hb := isHexDigit_of_digit? hb
      replace hc := isHexDigit_of_digit? hc
      replace hd := isHexDigit_of_digit? hd
      have := ha.lt
      have := hb.lt
      have := hc.lt
      have := hd.lt
      have hcode : ((av * 16 + bv) * 16 + cv) * 16 + dv = code := by
        simpa [Text.ofDigits] using hcode
      have hav : code / 0x1000 = av := by omega
      have hbv : code / 0x100 % 0x10 = bv := by omega
      have hcv : code / 0x10 % 0x10 = cv := by omega
      have hdv : code % 0x10 = dv := by omega
      subst hav hbv hcv hdv
      exact ⟨[a, b, c, d], .digits ha hb hc hd, rfl⟩
    · contradiction
  · contradiction

/-! ## What can be passed over -/

theorem SpellsUnit.lt {unit : Nat} {digits : List Char} (h : SpellsUnit unit digits) :
    unit < 0x10000 := by
  obtain ⟨ha, _, _, _⟩ := h
  have := ha.lt
  omega

theorem mem_shortEscapes {letter c : Char} (h : shortEscape? letter = some c) :
    (letter, c) ∈ shortEscapes := by
  unfold shortEscape? at h
  split at h <;> first | contradiction | (cases h; decide)

theorem eq_append_of_skipEscape {cs rest : List Char} (h : skipEscape cs = .ok rest) :
    ∃ part, IsStringPart ('\\' :: part) ∧ cs = part ++ rest := by
  unfold skipEscape at h
  split at h
  · contradiction
  · obtain ⟨⟨code, after⟩, hhex, rfl⟩ := exists_of_map_eq_ok h
    obtain ⟨digits, hdigits, rfl⟩ := eq_append_of_readHex hhex
    exact ⟨'u' :: digits, .unit hdigits, rfl⟩
  · next letter after _ =>
    split at h
    · next hletter =>
      cases h
      obtain ⟨c, hc⟩ := Option.isSome_iff_exists.1 hletter
      exact ⟨[letter], .short (mem_shortEscapes hc), rfl⟩
    · contradiction

/-- What is passed over as a string is the rest of one, with its closing quote. -/
theorem eq_append_of_skipString {cs rest : List Char} (h : skipString cs = .ok rest) :
    ∃ inner, IsStringInner inner ∧ cs = inner ++ '"' :: rest := by
  fun_induction skipString cs with
  | case1 => contradiction
  | case2 =>
    cases h
    exact ⟨[], .nil, rfl⟩
  | case3 => contradiction
  | case4 escape after hescape ih =>
    obtain ⟨part, hpart, rfl⟩ := eq_append_of_skipEscape hescape
    obtain ⟨inner, hinner, rfl⟩ := ih h
    exact ⟨_, .cons hpart hinner, by simp⟩
  | case5 => contradiction
  | case6 c after hquote hbackslash hcontrol ih =>
    obtain ⟨inner, hinner, rfl⟩ := ih h
    have hplain : isPlain c := by
      simp only [isPlain, Bool.and_eq_true, decide_eq_true_eq, bne_iff_ne]
      exact ⟨⟨Char.not_lt.1 hcontrol, hquote⟩, hbackslash⟩
    exact ⟨_, .cons (.plain hplain) hinner, rfl⟩

/-! ## What can be read -/

theorem toNat_ofNat {code : Nat} (h : code.isValidChar) : (Char.ofNat code).toNat = code := by
  rw [Char.ofNat, dif_pos h]
  rfl

theorem eq_of_skipTrailMark {cs rest : List Char} (h : skipTrailMark cs = .ok rest) :
    cs = '\\' :: 'u' :: rest := by
  unfold skipTrailMark at h
  split at h
  · contradiction
  · split at h
    · contradiction
    · next hbackslash =>
      split at h
      · contradiction
      · split at h
        · next hu =>
          cases h
          rw [Classical.not_not.1 hbackslash, hu]
        · contradiction

/-- Two halves in the right order make a character of which they are the code units. -/
theorem units_surrogatePair {lead trail : Nat} (hlead : isLeadSurrogate lead)
    (htrail : isTrailSurrogate trail) :
    0x10000 ≤ (surrogatePair lead trail).toNat ∧ leadUnit (surrogatePair lead trail) = lead ∧
      trailUnit (surrogatePair lead trail) = trail := by
  simp only [isTrailSurrogate, isLeadSurrogate, Bool.and_eq_true, decide_eq_true_eq]
    at htrail hlead
  have hnat : (surrogatePair lead trail).toNat =
      0x10000 + (lead - 0xD800) * 0x400 + (trail - 0xDC00) := by
    rw [surrogatePair]
    apply toNat_ofNat
    right
    omega
  rw [leadUnit, trailUnit, hnat]
  omega

theorem eq_of_readTrail {lead : Nat} {cs rest : List Char} {c : Char}
    (h : readTrail lead cs = .ok (c, rest)) :
    ∃ trail digits, isTrailSurrogate trail ∧ SpellsUnit trail digits ∧
      surrogatePair lead trail = c ∧ cs = '\\' :: 'u' :: (digits ++ rest) := by
  rw [readTrail] at h
  split at h
  · contradiction
  · next hmark =>
    split at h
    · contradiction
    · next trail after hhex =>
      split at h
      · next hisTrail =>
        simp only [Except.ok.injEq, Prod.mk.injEq] at h
        obtain ⟨rfl, rfl⟩ := h
        obtain ⟨digits, hdigits, rfl⟩ := eq_append_of_readHex hhex
        exact ⟨trail, digits, hisTrail, hdigits, rfl, eq_of_skipTrailMark hmark⟩
      · contradiction

/-- A code unit that is no half of a character is one. -/
theorem toNat_ofNat_unit {unit : Nat} (hlt : unit < 0x10000) (htrail : ¬isTrailSurrogate unit)
    (hlead : ¬isLeadSurrogate unit) : (Char.ofNat unit).toNat = unit := by
  simp only [isTrailSurrogate, isLeadSurrogate, Bool.and_eq_true, decide_eq_true_eq]
    at htrail hlead
  apply toNat_ofNat
  rw [Nat.isValidChar]
  omega

theorem eq_append_of_readUnicode {cs rest : List Char} {c : Char}
    (h : readUnicode cs = .ok (c, rest)) :
    ∃ form, SpellsChar c ('\\' :: 'u' :: form) ∧ cs = form ++ rest := by
  rw [readUnicode] at h
  split at h
  · contradiction
  · next code after hhex =>
    obtain ⟨digits, hdigits, rfl⟩ := eq_append_of_readHex hhex
    split at h
    · contradiction
    · next hnotTrail =>
      split at h
      · next hisLead =>
        obtain ⟨trail, trailDigits, hisTrail, htrailDigits, rfl, rfl⟩ := eq_of_readTrail h
        obtain ⟨hbeyond, hlead, htrail⟩ := units_surrogatePair hisLead hisTrail
        refine ⟨digits ++ '\\' :: 'u' :: trailDigits, ?_, by simp⟩
        exact .surrogates hbeyond (hlead.symm ▸ hdigits) (htrail.symm ▸ htrailDigits)
      · next hnotLead =>
        simp only [Except.ok.injEq, Prod.mk.injEq] at h
        obtain ⟨rfl, rfl⟩ := h
        have hnat := toNat_ofNat_unit hdigits.lt hnotTrail hnotLead
        exact ⟨digits, .unit (hnat.symm ▸ hdigits), rfl⟩

theorem eq_append_of_readEscape {cs rest : List Char} {c : Char}
    (h : readEscape cs = .ok (c, rest)) :
    ∃ form, SpellsChar c ('\\' :: form) ∧ cs = form ++ rest := by
  unfold readEscape at h
  split at h
  · contradiction
  · obtain ⟨form, hform, rfl⟩ := eq_append_of_readUnicode h
    exact ⟨'u' :: form, hform, rfl⟩
  · next letter after _ =>
    split at h
    · next hletter =>
      cases h
      exact ⟨[letter], .short (mem_shortEscapes hletter), rfl⟩
    · contradiction

theorem eq_append_of_readStringFrom {read cs rest : List Char} {text : String}
    (h : readStringFrom read cs = .ok (text, rest)) :
    ∃ inner forms, SpellsChars inner forms ∧ text = String.ofList (read.reverse ++ inner) ∧
      cs = forms ++ '"' :: rest := by
  fun_induction readStringFrom read cs with
  | case1 => contradiction
  | case2 =>
    cases h
    exact ⟨[], [], .nil, by simp, rfl⟩
  | case3 => contradiction
  | case4 read escape c after hescape ih =>
    obtain ⟨form, hform, rfl⟩ := eq_append_of_readEscape hescape
    obtain ⟨inner, forms, hforms, rfl, rfl⟩ := ih h
    exact ⟨c :: inner, _, .cons hform hforms, by simp, by simp⟩
  | case5 => contradiction
  | case6 read c after hquote hbackslash hcontrol ih =>
    obtain ⟨inner, forms, hforms, rfl, rfl⟩ := ih h
    have hplain : isPlain c := by
      simp only [isPlain, Bool.and_eq_true, decide_eq_true_eq, bne_iff_ne]
      exact ⟨⟨Char.not_lt.1 hcontrol, hquote⟩, hbackslash⟩
    exact ⟨c :: inner, _, .cons (.plain hplain) hforms, by simp, rfl⟩

/-- What is read as a string spells the text that it is read as. -/
theorem eq_append_of_readString {cs rest : List Char} {text : String}
    (h : readString cs = .ok (text, rest)) :
    ∃ forms, SpellsChars text.toList forms ∧ cs = forms ++ '"' :: rest := by
  obtain ⟨inner, forms, hforms, rfl, rfl⟩ := eq_append_of_readStringFrom h
  exact ⟨forms, by simpa using hforms, rfl⟩

/-- What is read as a string could as well be passed over. -/
theorem skipString_of_readString {cs rest : List Char} {text : String}
    (h : readString cs = .ok (text, rest)) : skipString cs = .ok rest := by
  obtain ⟨forms, hforms, rfl⟩ := eq_append_of_readString h
  exact skipString_inner hforms.isStringInner rest

end UnitLint.Json
