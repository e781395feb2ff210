import Mathlib.Tactic.IntervalCases
import UnitLint.Proofs.Json.Spelling
import UnitLint.Proofs.Text.Digit

/-!
# Reading strings

Whatever way a string is spelled, reading it gives the text that it stands for. One lemma says so
for each kind of spelling of a character, the rest is an induction on the characters.
-/

namespace UnitLint.Json

/-! ## White space -/

theorem isSpace_iff (c : Char) : isSpace c ↔ c ∈ [' ', '\n', '\t', '\r'] := by
  simp [isSpace, or_assoc]

@[simp] theorem skipSpace_spacing_append {spacing : List Char} (h : IsSpacing spacing)
    (cs : List Char) : skipSpace (spacing ++ cs) = skipSpace cs :=
  List.dropWhile_append_of_pos fun c hc => (isSpace_iff c).2 (h c hc)

theorem skipSpace_cons {c : Char} (h : isSpace c = false) (cs : List Char) :
    skipSpace (c :: cs) = c :: cs := by
  rw [skipSpace, List.dropWhile_cons_of_neg (by simp [h])]

/-- White space in front of a token is passed over. -/
theorem skipSpace_spacing_cons {spacing : List Char} (hspacing : IsSpacing spacing) {c : Char}
    (hc : isSpace c = false) (cs : List Char) : skipSpace (spacing ++ c :: cs) = c :: cs := by
  rw [skipSpace_spacing_append hspacing, skipSpace_cons hc]

theorem skipColon_spacing {spacing : List Char} (h : IsSpacing spacing) (rest : List Char) :
    skipColon (spacing ++ ':' :: rest) = .ok rest := by
  rw [skipColon, skipSpace_spacing_cons h (by decide)]
  rfl

/-! ## Escapes -/

theorem digit?_of_isHexDigit {value : Nat} {c : Char} (h : IsHexDigit value c) :
    Text.digit? 16 c = some value := by
  have hlt : value < 16 := by
    rcases h with h | h <;> exact (List.getElem?_eq_some_iff.1 h).1
  interval_cases value <;> rcases h with h | h <;> cases h <;> rfl

theorem readHex_spelled {unit : Nat} {form : List Char} (h : SpellsUnit unit form)
    (rest : List Char) : readHex (form ++ rest) = .ok (unit, rest) := by
  obtain ⟨ha, hb, hc, hd⟩ := h
  have hunit : ((unit / 0x1000 * 16 + unit / 0x100 % 0x10) * 16 + unit / 0x10 % 0x10) * 16 +
      unit % 0x10 = unit := by omega
  simp [readHex, Text.numeral?, Text.ofDigits, digit?_of_isHexDigit ha, digit?_of_isHexDigit hb,
    digit?_of_isHexDigit hc, digit?_of_isHexDigit hd, hunit]

/-- No character is half of another one. -/
theorem not_surrogate (c : Char) :
    isTrailSurrogate c.toNat = false ∧ isLeadSurrogate c.toNat = false := by
  have hvalid : c.toNat < 0xD800 ∨ 0xDFFF < c.toNat ∧ c.toNat < 0x110000 := c.valid
  simp only [isTrailSurrogate, isLeadSurrogate, Bool.and_eq_false_iff, decide_eq_false_iff_not]
  omega

theorem surrogatePair_units {c : Char} (h : 0x10000 ≤ c.toNat) :
    surrogatePair (leadUnit c) (trailUnit c) = c := by
  have hsum : 0x10000 + (leadUnit c - 0xD800) * 0x400 + (trailUnit c - 0xDC00) = c.toNat := by
    rw [leadUnit, trailUnit]
    omega
  rw [surrogatePair, hsum, Char.ofNat_toNat]

theorem surrogates_units {c : Char} (h : 0x10000 ≤ c.toNat) :
    isTrailSurrogate (leadUnit c) = false ∧ isLeadSurrogate (leadUnit c) ∧
      isTrailSurrogate (trailUnit c) := by
  have hvalid : c.toNat < 0xD800 ∨ 0xDFFF < c.toNat ∧ c.toNat < 0x110000 := c.valid
  simp only [isTrailSurrogate, isLeadSurrogate, Bool.and_eq_false_iff, Bool.and_eq_true,
    decide_eq_false_iff_not, decide_eq_true_eq]
  rw [leadUnit, trailUnit]
  omega

theorem readUnicode_unit {c : Char} {digits : List Char} (h : SpellsUnit c.toNat digits)
    (rest : List Char) : readUnicode (digits ++ rest) = .ok (c, rest) := by
  simp [readUnicode, readHex_spelled h, not_surrogate c]

theorem readUnicode_surrogates {c : Char} {lead trail : List Char} (hbeyond : 0x10000 ≤ c.toNat)
    (hlead : SpellsUnit (leadUnit c) lead) (htrail : SpellsUnit (trailUnit c) trail)
    (rest : List Char) :
    readUnicode (lead ++ '\\' :: 'u' :: (trail ++ rest)) = .ok (c, rest) := by
  obtain ⟨hnot, hisLead, hisTrail⟩ := surrogates_units hbeyond
  simp [readUnicode, readHex_spelled hlead, hnot, hisLead, readTrail, skipTrailMark,
    readHex_spelled htrail, hisTrail, surrogatePair_units hbeyond]

theorem readEscape_u (rest : List Char) : readEscape ('u' :: rest) = readUnicode rest := rfl

theorem readEscape_short {letter c : Char} (h : (letter, c) ∈ shortEscapes) (rest : List Char) :
    readEscape (letter :: rest) = .ok (c, rest) := by
  simp only [shortEscapes, List.mem_cons, Prod.mk.injEq, List.not_mem_nil, or_false] at h
  rcases h with h | h | h | h | h | h | h | h <;> obtain ⟨rfl, rfl⟩ := h <;> rfl

/-! ## Characters, one after the other -/

theorem readStringFrom_escape {escape rest : List Char} {c : Char}
    (h : readEscape escape = .ok (c, rest)) (read : List Char) :
    readStringFrom read ('\\' :: escape) = readStringFrom (c :: read) rest := by
  rw [readStringFrom]
  split <;> simp_all

/-- However a character is spelled, it is the next one read. -/
theorem readStringFrom_char {c : Char} {form : List Char} (h : SpellsChar c form)
    (read rest : List Char) :
    readStringFrom read (form ++ rest) = readStringFrom (c :: read) rest := by
  cases h with
  | plain hplain =>
    simp only [isPlain, Bool.and_eq_true, decide_eq_true_eq, bne_iff_ne] at hplain
    obtain ⟨⟨hcontrol, hquote⟩, hbackslash⟩ := hplain
    rw [List.singleton_append, readStringFrom]
    · rw [if_neg (Char.not_lt.2 hcontrol)]
    · exact hquote
    · exact hbackslash
  | short hletter => exact readStringFrom_escape (readEscape_short hletter rest) read
  | unit hdigits =>
    have hread := readUnicode_unit hdigits rest
    rw [← readEscape_u] at hread
    exact readStringFrom_escape hread read
  | surrogates hbeyond hlead htrail =>
    have hread := readUnicode_surrogates hbeyond hlead htrail rest
    rw [← readEscape_u] at hread
    simpa using readStringFrom_escape hread read

theorem readStringFrom_chars {cs forms : List Char} (h : SpellsChars cs forms)
    (read rest : List Char) :
    readStringFrom read (forms ++ '"' :: rest) =
      .ok (String.ofList (read.reverse ++ cs), rest) := by
  induction h generalizing read with
  | nil => simp [readStringFrom]
  | cons hc _ ih =>
    rw [List.append_assoc, readStringFrom_char hc, ih]
    simp

/-- The spelling of a string begins with a quote, and what is read behind it is the text. -/
theorem SpellsString.exists_readString {text : String} {form : List Char}
    (h : SpellsString text form) :
    ∃ inner, form = '"' :: inner ∧ ∀ rest, readString (inner ++ rest) = .ok (text, rest) := by
  obtain ⟨hforms⟩ := h
  refine ⟨_, rfl, fun rest => ?_⟩
  simpa [readString] using readStringFrom_chars hforms [] rest

end UnitLint.Json
