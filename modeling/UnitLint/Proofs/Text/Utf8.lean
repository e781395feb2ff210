import Mathlib.Data.List.Forall2
import UnitLint.Text.Decode

/-!
# What is UTF-8

The bytes that may start a character and those that may then follow are exactly the ones that some
character is encoded with, so a scan finds no defect exactly where the bytes encode a text.
Encodings that are longer than need be, those of surrogates, those beyond the last code point and
those that are cut off are all left out, by the arithmetic of the code points. A defect that is
found is at the place up to which the bytes are the encoding of a text and where no character
starts.
-/

namespace UnitLint.Text.Utf8

/-- Whether bytes lie in ranges, each in the one at its place. -/
def Completes (owed : List (UInt8 × UInt8)) (bytes : List UInt8) : Prop :=
  List.Forall₂ (fun range byte => range.1 ≤ byte ∧ byte ≤ range.2) owed bytes

/-- The kinds of bytes that start a character, with the ranges of the bytes that must follow. -/
inductive IsLead (lead : UInt8) : List (UInt8 × UInt8) → Prop
  | alone : lead.toNat ≤ 0x7F → IsLead lead []
  | withOne : 0xC2 ≤ lead.toNat → lead.toNat ≤ 0xDF → IsLead lead [tail]
  | notShorterThree : lead.toNat = 0xE0 → IsLead lead [(0xA0, 0xBF), tail]
  | notSurrogate : lead.toNat = 0xED → IsLead lead [(0x80, 0x9F), tail]
  | withTwo : 0xE1 ≤ lead.toNat → lead.toNat ≤ 0xEF → lead.toNat ≠ 0xED → IsLead lead [tail, tail]
  | notShorterFour : lead.toNat = 0xF0 → IsLead lead [(0x90, 0xBF), tail, tail]
  | withThree : 0xF1 ≤ lead.toNat → lead.toNat ≤ 0xF3 → IsLead lead [tail, tail, tail]
  | notBeyond : lead.toNat = 0xF4 → IsLead lead [(0x80, 0x8F), tail, tail]

theorem following?_eq_some_iff {lead : UInt8} {owed : List (UInt8 × UInt8)} :
    following? lead = some owed ↔ IsLead lead owed := by
  simp only [following?, UInt8.le_iff_toNat_le, ← UInt8.toNat_inj, UInt8.reduceToNat]
  constructor
  · intro h
    split_ifs at h with h1 h2 h3 h4 h5 h6 h7 h8 <;> cases h
    · exact .alone h1
    · exact .withOne h2.1 h2.2
    · exact .notShorterThree h3
    · exact .notSurrogate h4
    · exact .withTwo h5.1 h5.2 h4
    · exact .notShorterFour h6
    · exact .withThree h7.1 h7.2
    · exact .notBeyond h8
  · intro h
    cases h <;> grind

/-- How a code point is told by the numbers of its bytes. -/
inductive IsEncoded (n : Nat) : List UInt8 → Prop
  | one {a : UInt8} : n ≤ 0x7F → a.toNat = n → IsEncoded n [a]
  | two {a b : UInt8} : 0x7F < n → n ≤ 0x7FF → a.toNat = n / 64 + 0xC0 →
      b.toNat = n % 64 + 0x80 → IsEncoded n [a, b]
  | three {a b c : UInt8} : 0x7FF < n → n ≤ 0xFFFF → a.toNat = n / 4096 + 0xE0 →
      b.toNat = n / 64 % 64 + 0x80 → c.toNat = n % 64 + 0x80 → IsEncoded n [a, b, c]
  | four {a b c d : UInt8} : 0xFFFF < n → a.toNat = n / 262144 + 0xF0 →
      b.toNat = n / 4096 % 64 + 0x80 → c.toNat = n / 64 % 64 + 0x80 → d.toNat = n % 64 + 0x80 →
      IsEncoded n [a, b, c, d]

theorem isEncoded_utf8EncodeChar (c : Char) : IsEncoded c.toNat (String.utf8EncodeChar c) := by
  have hvalid : c.toNat < 0xD800 ∨ 0xDFFF < c.toNat ∧ c.toNat < 0x110000 := c.valid
  have hval : c.val.toNat = c.toNat := rfl
  simp only [String.utf8EncodeChar, hval]
  split_ifs with hone htwo hthree
  · refine .one hone ?_
    rw [UInt8.toNat_ofNat']
    omega
  · refine .two (by omega) htwo ?_ ?_ <;> rw [UInt8.toNat_ofNat'] <;> omega
  · refine .three (by omega) hthree ?_ ?_ ?_ <;> rw [UInt8.toNat_ofNat'] <;> omega
  · refine .four (by omega) ?_ ?_ ?_ ?_ <;> rw [UInt8.toNat_ofNat'] <;> omega

theorem utf8EncodeChar_ne_nil (c : Char) : String.utf8EncodeChar c ≠ [] := by
  intro hnil
  have hencoded := isEncoded_utf8EncodeChar c
  rw [hnil] at hencoded
  cases hencoded

theorem IsEncoded.unique {n : Nat} {bytes bytes' : List UInt8} (h : IsEncoded n bytes)
    (h' : IsEncoded n bytes') : bytes = bytes' := by
  cases h <;> cases h' <;>
    simp only [List.cons.injEq, ← UInt8.toNat_inj, reduceCtorEq, and_true, and_false] <;> omega

theorem utf8EncodeChar_eq_iff {c : Char} {bytes : List UInt8} :
    String.utf8EncodeChar c = bytes ↔ IsEncoded c.toNat bytes := by
  constructor
  · rintro rfl
    exact isEncoded_utf8EncodeChar c
  · exact (isEncoded_utf8EncodeChar c).unique

theorem within_iff {low high byte : UInt8} :
    low ≤ byte ∧ byte ≤ high ↔ low.toNat ≤ byte.toNat ∧ byte.toNat ≤ high.toNat := by
  rw [UInt8.le_iff_toNat_le, UInt8.le_iff_toNat_le]

theorem within_tail_iff {byte : UInt8} :
    tail.1 ≤ byte ∧ byte ≤ tail.2 ↔ 0x80 ≤ byte.toNat ∧ byte.toNat ≤ 0xBF := within_iff

theorem exists_isLead {c : Char} {lead : UInt8} {rest : List UInt8}
    (h : String.utf8EncodeChar c = lead :: rest) :
    ∃ owed, IsLead lead owed ∧ Completes owed rest := by
  have hvalid : c.toNat < 0xD800 ∨ 0xDFFF < c.toNat ∧ c.toNat < 0x110000 := c.valid
  cases utf8EncodeChar_eq_iff.1 h with
  | one hone ha => exact ⟨_, .alone (by omega), .nil⟩
  | two hlow hhigh ha hb =>
    exact ⟨_, .withOne (by omega) (by omega), .cons (within_tail_iff.2 (by omega)) .nil⟩
  | @three _ b d hlow hhigh ha hb hd =>
    have hlast : tail.1 ≤ d ∧ d ≤ tail.2 := within_tail_iff.2 (by omega)
    by_cases hshort : c.toNat < 0x1000
    · have hsecond : 0xA0 ≤ b.toNat ∧ b.toNat ≤ 0xBF := by omega
      exact ⟨_, .notShorterThree (by omega), .cons (within_iff.2 hsecond) (.cons hlast .nil)⟩
    by_cases hbefore : 0xD000 ≤ c.toNat ∧ c.toNat < 0xE000
    · have hsecond : 0x80 ≤ b.toNat ∧ b.toNat ≤ 0x9F := by omega
      exact ⟨_, .notSurrogate (by omega), .cons (within_iff.2 hsecond) (.cons hlast .nil)⟩
    · exact ⟨_, .withTwo (by omega) (by omega) (by omega),
        .cons (within_tail_iff.2 (by omega)) (.cons hlast .nil)⟩
  | @four _ b d e hlow ha hb hd he =>
    have hthird : tail.1 ≤ d ∧ d ≤ tail.2 := within_tail_iff.2 (by omega)
    have hlast : tail.1 ≤ e ∧ e ≤ tail.2 := within_tail_iff.2 (by omega)
    by_cases hshort : c.toNat < 0x40000
    · have hsecond : 0x90 ≤ b.toNat ∧ b.toNat ≤ 0xBF := by omega
      exact ⟨_, .notShorterFour (by omega),
        .cons (within_iff.2 hsecond) (.cons hthird (.cons hlast .nil))⟩
    by_cases hlarge : 0x100000 ≤ c.toNat
    · have hsecond : 0x80 ≤ b.toNat ∧ b.toNat ≤ 0x8F := by omega
      exact ⟨_, .notBeyond (by omega),
        .cons (within_iff.2 hsecond) (.cons hthird (.cons hlast .nil))⟩
    · exact ⟨_, .withThree (by omega) (by omega),
        .cons (within_tail_iff.2 (by omega)) (.cons hthird (.cons hlast .nil))⟩

theorem exists_char_of_isEncoded {n : Nat} {bytes : List UInt8} (hvalid : n.isValidChar)
    (h : IsEncoded n bytes) : ∃ c, String.utf8EncodeChar c = bytes :=
  ⟨Char.ofNatAux n hvalid, utf8EncodeChar_eq_iff.2 h⟩

section Decoding

variable {lead b d e : UInt8} (hb : tail.1 ≤ b ∧ b ≤ tail.2) (hd : tail.1 ≤ d ∧ d ≤ tail.2)
  (he : tail.1 ≤ e ∧ e ≤ tail.2)

include hb in
theorem exists_char_two (hlead : 0xC2 ≤ lead.toNat ∧ lead.toNat ≤ 0xDF) :
    ∃ c, String.utf8EncodeChar c = [lead, b] := by
  rw [within_tail_iff] at hb
  have hvalid : ((lead.toNat - 0xC0) * 64 + (b.toNat - 0x80)).isValidChar := by
    rw [Nat.isValidChar]
    omega
  exact exists_char_of_isEncoded hvalid (.two (by omega) (by omega) (by omega) (by omega))

include hb hd in
/-- Shorter encodings and surrogates are kept off. -/
theorem exists_char_three (hlead : 0xE0 ≤ lead.toNat ∧ lead.toNat ≤ 0xEF)
    (hshort : lead.toNat = 0xE0 → 0xA0 ≤ b.toNat)
    (hsurrogate : lead.toNat = 0xED → b.toNat ≤ 0x9F) :
    ∃ c, String.utf8EncodeChar c = [lead, b, d] := by
  rw [within_tail_iff] at hb hd
  have hvalid : ((lead.toNat - 0xE0) * 4096 + (b.toNat - 0x80) * 64 +
      (d.toNat - 0x80)).isValidChar := by
    rw [Nat.isValidChar]
    omega
  exact exists_char_of_isEncoded hvalid
    (.three (by omega) (by omega) (by omega) (by omega) (by omega))

include hb hd he in
/-- Shorter encodings and what is beyond the last code point are kept off. -/
theorem exists_char_four (hlead : 0xF0 ≤ lead.toNat ∧ lead.toNat ≤ 0xF4)
    (hshort : lead.toNat = 0xF0 → 0x90 ≤ b.toNat) (hbeyond : lead.toNat = 0xF4 → b.toNat ≤ 0x8F) :
    ∃ c, String.utf8EncodeChar c = [lead, b, d, e] := by
  rw [within_tail_iff] at hb hd he
  have hvalid : ((lead.toNat - 0xF0) * 262144 + (b.toNat - 0x80) * 4096 + (d.toNat - 0x80) * 64 +
      (e.toNat - 0x80)).isValidChar := by
    rw [Nat.isValidChar]
    omega
  exact exists_char_of_isEncoded hvalid
    (.four (by omega) (by omega) (by omega) (by omega) (by omega))

end Decoding

theorem exists_char_of_isLead {lead : UInt8} {owed : List (UInt8 × UInt8)} {rest : List UInt8}
    (hlead : IsLead lead owed) (hrest : Completes owed rest) :
    ∃ c, String.utf8EncodeChar c = lead :: rest := by
  cases hlead with
  | alone hone =>
    cases hrest
    have hvalid : lead.toNat.isValidChar := .inl (by omega)
    exact exists_char_of_isEncoded hvalid (.one hone rfl)
  | withOne hlow hhigh =>
    match rest, hrest with
    | [_], .cons hb .nil => exact exists_char_two hb ⟨hlow, hhigh⟩
  | notShorterThree hlead =>
    match rest, hrest with
    | [b, _], .cons hb (.cons hd .nil) =>
      have hsecond : 0xA0 ≤ b.toNat ∧ b.toNat ≤ 0xBF := within_iff.1 hb
      exact exists_char_three (within_tail_iff.2 (by omega)) hd (by omega) (by omega) (by omega)
  | notSurrogate hlead =>
    match rest, hrest with
    | [b, _], .cons hb (.cons hd .nil) =>
      have hsecond : 0x80 ≤ b.toNat ∧ b.toNat ≤ 0x9F := within_iff.1 hb
      exact exists_char_three (within_tail_iff.2 (by omega)) hd (by omega) (by omega) (by omega)
  | withTwo hlow hhigh hne =>
    match rest, hrest with
    | [_, _], .cons hb (.cons hd .nil) =>
      exact exists_char_three hb hd (by omega) (by omega) (by omega)
  | notShorterFour hlead =>
    match rest, hrest with
    | [b, _, _], .cons hb (.cons hd (.cons he .nil)) =>
      have hsecond : 0x90 ≤ b.toNat ∧ b.toNat ≤ 0xBF := within_iff.1 hb
      exact exists_char_four (within_tail_iff.2 (by omega)) hd he (by omega) (by omega) (by omega)
  | withThree hlow hhigh =>
    match rest, hrest with
    | [_, _, _], .cons hb (.cons hd (.cons he .nil)) =>
      exact exists_char_four hb hd he (by omega) (by omega) (by omega)
  | notBeyond hlead =>
    match rest, hrest with
    | [b, _, _], .cons hb (.cons hd (.cons he .nil)) =>
      have hsecond : 0x80 ≤ b.toNat ∧ b.toNat ≤ 0x8F := within_iff.1 hb
      exact exists_char_four (within_tail_iff.2 (by omega)) hd he (by omega) (by omega) (by omega)

/-- Bytes encode a character exactly if the first is one that starts characters and the others are
those that must follow it. -/
theorem exists_char_iff {lead : UInt8} {rest : List UInt8} :
    (∃ c, String.utf8EncodeChar c = lead :: rest) ↔
      ∃ owed, following? lead = some owed ∧ Completes owed rest := by
  simp only [following?_eq_some_iff]
  constructor
  · rintro ⟨c, hc⟩
    exact exists_isLead hc
  · rintro ⟨owed, hlead, hrest⟩
    exact exists_char_of_isLead hlead hrest

/-! ## Texts -/

/-- Whether bytes encode some characters. -/
def IsUtf8 (bytes : List UInt8) : Prop :=
  ∃ cs : List Char, bytes = cs.flatMap String.utf8EncodeChar

/-- Whether bytes begin with those that complete a character, and what is left is as told. -/
def Completed (owed : List (UInt8 × UInt8)) (isLeft : List UInt8 → Prop) (bytes : List UInt8) :
    Prop :=
  ∃ rest others, bytes = rest ++ others ∧ Completes owed rest ∧ isLeft others

variable {lead byte : UInt8} {bytes : List UInt8} {range : UInt8 × UInt8}
  {owed : List (UInt8 × UInt8)} {isLeft : List UInt8 → Prop}

theorem completed_nil_iff : Completed [] isLeft bytes ↔ isLeft bytes := by
  constructor
  · rintro ⟨rest, others, rfl, hrest, hothers⟩
    cases hrest
    exact hothers
  · intro h
    exact ⟨[], bytes, rfl, .nil, h⟩

theorem completed_cons_iff :
    Completed (range :: owed) isLeft (byte :: bytes) ↔
      (range.1 ≤ byte ∧ byte ≤ range.2) ∧ Completed owed isLeft bytes := by
  constructor
  · rintro ⟨rest, others, hbytes, hrest, hothers⟩
    cases hrest with
    | @cons _ first _ rest hfirst hrest =>
      obtain ⟨rfl, rfl⟩ := List.cons.inj hbytes
      exact ⟨hfirst, rest, others, rfl, hrest, hothers⟩
  · rintro ⟨hbyte, rest, others, rfl, hrest, hothers⟩
    exact ⟨byte :: rest, others, rfl, .cons hbyte hrest, hothers⟩

theorem not_completed_nil : ¬Completed (range :: owed) isLeft [] := by
  rintro ⟨rest, others, hbytes, hrest, -⟩
  obtain ⟨rfl, -⟩ := List.append_eq_nil_iff.1 hbytes.symm
  cases hrest

theorem isUtf8_nil : IsUtf8 [] := ⟨[], rfl⟩

/-- Some bytes encode a character and are followed by others. -/
theorem utf8EncodeChar_prefix_iff :
    (∃ c others, lead :: bytes = String.utf8EncodeChar c ++ others ∧ isLeft others) ↔
      ∃ owed, following? lead = some owed ∧ Completed owed isLeft bytes := by
  constructor
  · rintro ⟨c, others, hbytes, hothers⟩
    cases hchar : String.utf8EncodeChar c with
    | nil => exact absurd hchar (utf8EncodeChar_ne_nil c)
    | cons first rest =>
      rw [hchar, List.cons_append, List.cons.injEq] at hbytes
      obtain ⟨rfl, rfl⟩ := hbytes
      obtain ⟨owed, hlead, hrest⟩ := exists_char_iff.1 ⟨c, hchar⟩
      exact ⟨owed, hlead, rest, others, rfl, hrest, hothers⟩
  · rintro ⟨owed, hlead, rest, others, rfl, hrest, hothers⟩
    obtain ⟨c, hchar⟩ := exists_char_iff.2 ⟨owed, hlead, hrest⟩
    exact ⟨c, others, by rw [hchar, List.cons_append], hothers⟩

theorem isUtf8_cons_iff :
    IsUtf8 (lead :: bytes) ↔ ∃ owed, following? lead = some owed ∧ Completed owed IsUtf8 bytes := by
  rw [← utf8EncodeChar_prefix_iff]
  constructor
  · rintro ⟨cs, hbytes⟩
    cases cs with
    | nil => cases hbytes
    | cons c cs => exact ⟨c, _, hbytes, cs, rfl⟩
  · rintro ⟨c, others, hbytes, cs, rfl⟩
    exact ⟨c :: cs, hbytes⟩

/-- Reading on, no defect is found exactly if the bytes complete what is owed and then are UTF-8. -/
theorem scan_eq_none_iff {start seen : Nat} :
    scan start seen owed bytes = none ↔ Completed owed IsUtf8 bytes := by
  induction bytes generalizing start seen owed with
  | nil =>
    cases owed with
    | nil => exact iff_of_true rfl (completed_nil_iff.2 isUtf8_nil)
    | cons range owed => exact iff_of_false (Option.some_ne_none _) not_completed_nil
  | cons byte bytes ih =>
    cases owed with
    | nil =>
      rw [completed_nil_iff, isUtf8_cons_iff, scan]
      cases following? byte with
      | none => simp
      | some owed => simp [ih]
    | cons range owed =>
      rw [completed_cons_iff, scan]
      split
      · next hbyte => rw [ih, and_iff_right hbyte]
      · next hbyte => simp [hbyte]

/-- No defect is found exactly in UTF-8. -/
theorem defect?_eq_none_iff : defect? bytes = none ↔ IsUtf8 bytes := by
  rw [defect?, scan_eq_none_iff, completed_nil_iff]

instance : Decidable (IsUtf8 bytes) := decidable_of_iff _ defect?_eq_none_iff

/-! ## Defects -/

/-- Whether bytes are UTF-8 up to a place, and from there on are some that no character starts. -/
def BreaksAt (bytes : List UInt8) (place : Nat) : Prop :=
  ∃ good bad, bytes = good ++ bad ∧ IsUtf8 good ∧ good.length = place ∧ bad ≠ [] ∧
    ∀ c, ¬String.utf8EncodeChar c <+: bad

theorem breaksAt_zero
    (h : ∀ owed, following? lead = some owed → ¬Completed owed (fun _ => True) bytes) :
    BreaksAt (lead :: bytes) 0 := by
  refine ⟨[], lead :: bytes, rfl, isUtf8_nil, rfl, List.cons_ne_nil _ _, ?_⟩
  rintro c ⟨others, hbytes⟩
  have hstarts : ∃ c others, lead :: bytes = String.utf8EncodeChar c ++ others ∧ True :=
    ⟨c, others, hbytes.symm, trivial⟩
  obtain ⟨owed, hlead, hcompleted⟩ := utf8EncodeChar_prefix_iff.1 hstarts
  exact h owed hlead hcompleted

/-- A character in front moves the place. -/
theorem breaksAt_cons {place : Nat} (hlead : following? lead = some owed)
    (h : Completed owed (BreaksAt · place) bytes) :
    BreaksAt (lead :: bytes) (1 + owed.length + place) := by
  obtain ⟨rest, others, rfl, hrest, good, bad, rfl, hgood, rfl, hne, hbad⟩ := h
  refine ⟨lead :: (rest ++ good), bad, by simp, ?_, ?_, hne, hbad⟩
  · exact isUtf8_cons_iff.2 ⟨owed, hlead, rest, good, rfl, hrest, hgood⟩
  · rw [List.length_cons, List.length_append, List.Forall₂.length_eq hrest]
    omega

/-- A defect that is found reading on is where the character started that is not completed, or so
many bytes behind what completes it. -/
theorem start_of_scan {start seen : Nat} {defect : Defect}
    (h : scan start seen owed bytes = some defect) :
    (defect.start = start ∧ ¬Completed owed (fun _ => True) bytes) ∨
      ∃ place, defect.start = start + seen + owed.length + place ∧
        Completed owed (BreaksAt · place) bytes := by
  induction bytes generalizing start seen owed with
  | nil =>
    cases owed with
    | nil => cases h
    | cons range owed =>
      cases h
      exact .inl ⟨rfl, not_completed_nil⟩
  | cons byte bytes ih =>
    cases owed with
    | nil =>
      simp only [completed_nil_iff]
      rw [scan] at h
      cases hlead : following? byte with
      | none =>
        rw [hlead] at h
        cases h
        exact .inr ⟨0, rfl, breaksAt_zero (by simp [hlead])⟩
      | some owed =>
        rw [hlead] at h
        rcases ih h with ⟨hstart, hnot⟩ | ⟨place, hstart, hcompleted⟩
        · exact .inr ⟨0, hstart, breaksAt_zero (by simpa [hlead] using hnot)⟩
        · refine .inr ⟨_, ?_, breaksAt_cons hlead hcompleted⟩
          rw [hstart, List.length_nil]
          omega
    | cons range owed =>
      simp only [completed_cons_iff]
      rw [scan] at h
      split at h
      · next hbyte =>
        rcases ih h with ⟨hstart, hnot⟩ | ⟨place, hstart, hcompleted⟩
        · exact .inl ⟨hstart, fun hcompleted => hnot hcompleted.2⟩
        · refine .inr ⟨place, ?_, hbyte, hcompleted⟩
          rw [hstart, List.length_cons]
          omega
      · next hbyte =>
        cases h
        exact .inl ⟨rfl, fun hcompleted => hbyte hcompleted.1⟩

/-- A defect is found where the bytes stop being UTF-8. -/
theorem breaksAt_of_defect? {defect : Defect} (h : defect? bytes = some defect) :
    BreaksAt bytes defect.start := by
  rcases start_of_scan h with ⟨-, hnot⟩ | ⟨place, hstart, hbreaks⟩
  · exact absurd (completed_nil_iff.2 trivial) hnot
  · rw [hstart, List.length_nil, Nat.add_zero, Nat.zero_add]
    exact completed_nil_iff.1 hbreaks

end UnitLint.Text.Utf8

namespace UnitLint.Text

open Utf8

/-! ## Decoding -/

theorem fromUTF8?_eq_some_iff {bytes : ByteArray} {text : String} :
    String.fromUTF8? bytes = some text ↔ bytes = text.toUTF8 := by
  rw [String.fromUTF8?]
  constructor
  · intro h
    split at h
    · cases h
      rfl
    · contradiction
  · rintro rfl
    exact dif_pos text.isValidUTF8

theorem toUTF8_ofList (cs : List Char) :
    (String.ofList cs).toUTF8 = (cs.flatMap String.utf8EncodeChar).toByteArray := by
  rw [String.toUTF8_eq_toByteArray, String.toByteArray_ofList, List.utf8Encode]

theorem fromUTF8?_flatMap (cs : List Char) :
    String.fromUTF8? (cs.flatMap String.utf8EncodeChar).toByteArray = some (String.ofList cs) :=
  fromUTF8?_eq_some_iff.2 (toUTF8_ofList cs).symm

theorem isUtf8_iff {bytes : ByteArray} :
    IsUtf8 bytes.data.toList ↔ ∃ text : String, bytes = text.toUTF8 := by
  constructor
  · rintro ⟨cs, hbytes⟩
    refine ⟨.ofList cs, ?_⟩
    rw [toUTF8_ofList, ← hbytes]
    ext1
    simp
  · rintro ⟨text, rfl⟩
    have hbytes := toUTF8_ofList text.toList
    rw [String.ofList_toList] at hbytes
    exact ⟨text.toList, by rw [hbytes, List.toList_data_toByteArray]⟩

/-- Bytes are read as the text that they encode, and bytes that encode none are not read. -/
theorem decode_eq_ok_iff {bytes : ByteArray} {text : String} :
    decode bytes = .ok text ↔ bytes = text.toUTF8 := by
  rw [← fromUTF8?_eq_some_iff, decode]
  cases String.fromUTF8? bytes <;> simp

/-- Bytes that encode no text have a defect, which is told. -/
theorem decode_eq_error_iff {bytes : ByteArray} {defect : Defect} :
    decode bytes = .error defect ↔ defect? bytes.data.toList = some defect := by
  cases hdefect : defect? bytes.data.toList with
  | none =>
    obtain ⟨text, htext⟩ := isUtf8_iff.1 (defect?_eq_none_iff.1 hdefect)
    simp [decode_eq_ok_iff.2 htext]
  | some found =>
    cases hread : String.fromUTF8? bytes with
    | none => simp [decode, hread, hdefect]
    | some text =>
      have htext : bytes = text.toUTF8 := fromUTF8?_eq_some_iff.1 hread
      rw [defect?_eq_none_iff.2 (isUtf8_iff.2 ⟨text, htext⟩)] at hdefect
      cases hdefect

end UnitLint.Text
