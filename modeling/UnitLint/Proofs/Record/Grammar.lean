import UnitLint.Proofs.Text.Spans
import UnitLint.Record.Basic

/-!
# The grammar of records

Which lines are records, said by their parts and without reading them. No two divisions of a line
into such parts differ: every part consists of characters of a kind that the mark or part behind it
does not begin with. So it does not matter that reading takes as much of each kind as there is.
-/

namespace UnitLint.Record

open Text

variable {kind : Char → Bool} {cs rest taken : List Char} {line : String}

/-- The names of sections: a capital, then at least one small letter. -/
inductive IsSectionName : List Char → Prop where
  | letters {capital : Char} {small : List Char} (hcapital : isCapital capital) (hne : small ≠ [])
      (hsmall : ∀ c ∈ small, isSmall c) : IsSectionName (capital :: small)

/-- Whether a text is a word: at least one character, and word characters only. -/
structure IsWord (cs : List Char) : Prop where
  ne_nil : cs ≠ []
  isWordChar : ∀ c ∈ cs, isWordChar c

/-- What a line is divided into by a point and two commas, with the blanks around the validator. -/
structure Parts where
  sectionName : List Char
  key : List Char
  before : List Char
  validator : List Char
  behind : List Char
  rest : List Char

namespace Parts

/-- The line that the parts make. -/
def text (parts : Parts) : List Char :=
  parts.sectionName ++ '.' :: (parts.key ++ ',' :: (parts.before ++ (parts.validator ++
    (parts.behind ++ ',' :: parts.rest))))

/-- What the parts say. -/
def record (parts : Parts) : Record where
  setting := { sectionName := .ofList parts.sectionName, key := .ofList parts.key }
  validator := .ofList parts.validator

/-- Whether a line is divided into these parts, and they are those of a record. -/
structure Divide (parts : Parts) (line : String) : Prop where
  text : line.toList = parts.text
  sectionName : IsSectionName parts.sectionName
  key : IsWord parts.key
  before : ∀ c ∈ parts.before, isBlank c
  validator : IsWord parts.validator
  behind : ∀ c ∈ parts.behind, isBlank c
  rest_ne : parts.rest ≠ []
  rest_open : '\n' ∉ parts.rest

end Parts

/-! ## Where the parts end -/

theorem endsSpan_point (rest : List Char) : EndsSpan isSmall ('.' :: rest) :=
  .cons (by decide) rest

theorem endsSpan_comma (rest : List Char) : EndsSpan isWordChar (',' :: rest) :=
  .cons (by decide +kernel) rest

theorem endsSpan_blank_comma (rest : List Char) : EndsSpan isBlank (',' :: rest) :=
  .cons (by decide) rest

/-- A word ends in front of blanks, and in front of a comma. -/
theorem endsSpan_blanks {blanks : List Char} (h : ∀ c ∈ blanks, isBlank c) (rest : List Char) :
    EndsSpan isWordChar (blanks ++ ',' :: rest) :=
  .append (fun c hc => isWordChar_of_isBlank (h c hc)) (endsSpan_comma rest)

/-- Blanks end in front of a word. -/
theorem IsWord.endsSpan_blank {word : List Char} (h : IsWord word) (rest : List Char) :
    EndsSpan isBlank (word ++ rest) :=
  .append_of_ne_nil h.ne_nil (fun c hc => isBlank_of_isWordChar (h.isWordChar c hc)) rest

/-! ## Steps of reading -/

theorem takeSome?_eq_some_iff :
    takeSome? kind cs = some (taken, rest) ↔
      taken ≠ [] ∧ (∀ c ∈ taken, kind c) ∧ EndsSpan kind rest ∧ cs = taken ++ rest := by
  constructor
  · intro h
    rw [takeSome?] at h
    split at h
    · contradiction
    · next hne =>
      cases h
      exact ⟨hne, fun c hc => List.mem_takeWhile_imp hc, endsSpan_dropWhile kind cs,
        List.takeWhile_append_dropWhile.symm⟩
  · rintro ⟨hne, htaken, hrest, rfl⟩
    rw [takeSome?, takeWhile_span htaken hrest, dropWhile_span htaken hrest]
    split
    · contradiction
    · rfl

theorem drop?_eq_some_iff {c : Char} : drop? c cs = some rest ↔ cs = c :: rest := by
  cases cs with
  | nil => simp [drop?]
  | cons d cs =>
    rw [drop?]
    split
    · next heq => simp [heq]
    · next hne => simp [hne]

/-! ## Lines -/

/-- What is read of a line are parts into which it is divided. -/
theorem exists_divide {record : Record} (h : ofLine? line = some record) :
    ∃ parts : Parts, parts.Divide line ∧ parts.record = record := by
  rw [ofLine?] at h
  split at h
  · contradiction
  · next capital _ hline =>
    split at h
    · next hcapital =>
      simp only [Option.bind_eq_bind, Option.bind_some, Option.bind_eq_some_iff, Prod.exists,
        takeSome?_eq_some_iff, drop?_eq_some_iff, dropWhile_eq_iff] at h
      obtain ⟨small, _, ⟨hsmallNe, hsmall, -, rfl⟩, _, rfl, key, _, ⟨hkeyNe, hkey, -, rfl⟩, _, rfl,
        validator, _, ⟨hvalidatorNe, hvalidator, -, before, hbefore, -, rfl⟩, rest,
        ⟨behind, hbehind, -, rfl⟩, hrecord⟩ := h
      split at hrecord
      · contradiction
      · next hrest =>
        rw [not_or] at hrest
        refine ⟨⟨capital :: small, key, before, validator, behind, rest⟩, ?_, ?_⟩
        · exact ⟨hline, .letters hcapital hsmallNe hsmall, ⟨hkeyNe, hkey⟩, hbefore,
            ⟨hvalidatorNe, hvalidator⟩, hbehind, hrest.1, hrest.2⟩
        · exact Option.some.inj hrecord
    · contradiction

/-- The parts of a record are read of a line that is divided into them. -/
theorem Parts.Divide.ofLine?_eq {parts : Parts} (h : parts.Divide line) :
    ofLine? line = some parts.record := by
  obtain ⟨sectionName, key, before, validator, behind, rest⟩ := parts
  obtain ⟨htext, ⟨hcapital, hne, hsmall⟩, hkey, hbefore, hvalidator, hbehind, hrestNe, hrest⟩ := h
  dsimp only at hkey hbefore hvalidator hbehind hrestNe hrest
  rw [ofLine?, htext, Parts.text, List.cons_append]
  dsimp only
  rw [if_pos hcapital]
  simp only [Option.bind_eq_bind, Option.bind_some, Option.bind_eq_some_iff, Prod.exists,
    takeSome?_eq_some_iff, drop?_eq_some_iff, dropWhile_eq_iff]
  refine ⟨_, _, ⟨hne, hsmall, endsSpan_point _, rfl⟩, _, rfl,
    key, _, ⟨hkey.ne_nil, hkey.isWordChar, endsSpan_comma _, rfl⟩, _, rfl,
    validator, _, ⟨hvalidator.ne_nil, hvalidator.isWordChar, endsSpan_blanks hbehind rest,
      before, hbefore, hvalidator.endsSpan_blank _, rfl⟩,
    rest, ⟨behind, hbehind, endsSpan_blank_comma rest, rfl⟩, ?_⟩
  rw [if_neg (not_or_intro hrestNe hrest)]
  rfl

/-- A line is divided in one way at most: part by part, the span in front of what ends it is the
same. -/
theorem Parts.Divide.unique {first second : Parts} (hfirst : first.Divide line)
    (hsecond : second.Divide line) : first = second := by
  have htext := hfirst.text.symm.trans hsecond.text
  obtain ⟨sectionName, key, before, validator, behind, rest⟩ := first
  obtain ⟨sectionName', key', before', validator', behind', rest'⟩ := second
  obtain ⟨-, ⟨-, -, hsmall⟩, hkey, hbefore, hvalidator, hbehind, -, -⟩ := hfirst
  obtain ⟨-, ⟨-, -, hsmall'⟩, hkey', hbefore', hvalidator', hbehind', -, -⟩ := hsecond
  dsimp only at hkey hbefore hvalidator hbehind hkey' hbefore' hvalidator' hbehind'
  obtain ⟨hcapitalEq, htext⟩ := List.cons.inj htext
  obtain ⟨hsmallEq, hpoint⟩ :=
    span_unique hsmall (endsSpan_point _) hsmall' (endsSpan_point _) htext
  obtain ⟨hkeyEq, hcomma⟩ := span_unique hkey.isWordChar (endsSpan_comma _)
    hkey'.isWordChar (endsSpan_comma _) (List.cons.inj hpoint).2
  obtain ⟨hbeforeEq, hword⟩ := span_unique hbefore (hvalidator.endsSpan_blank _)
    hbefore' (hvalidator'.endsSpan_blank _) (List.cons.inj hcomma).2
  obtain ⟨hvalidatorEq, hblanks⟩ := span_unique hvalidator.isWordChar
    (endsSpan_blanks hbehind rest) hvalidator'.isWordChar (endsSpan_blanks hbehind' rest') hword
  obtain ⟨hbehindEq, hcomma'⟩ := span_unique hbehind (endsSpan_blank_comma rest)
    hbehind' (endsSpan_blank_comma rest') hblanks
  rw [hcapitalEq, hsmallEq, hkeyEq, hbeforeEq, hvalidatorEq, hbehindEq,
    (List.cons.inj hcomma').2]

/-- A line is read as the record of the parts into which it is divided. There is one such division
at most, and where there is none, the line is no record. -/
theorem ofLine?_divided (line : String) :
    (∀ record, ofLine? line = some record ↔
        ∃ parts : Parts, parts.Divide line ∧ parts.record = record) ∧
      (∀ first second : Parts, first.Divide line → second.Divide line → first = second) ∧
      (ofLine? line = none ↔ ∀ parts : Parts, ¬parts.Divide line) := by
  refine ⟨fun record => ⟨exists_divide, ?_⟩, fun _ _ hfirst hsecond => hfirst.unique hsecond, ?_⟩
  · rintro ⟨parts, hparts, rfl⟩
    exact hparts.ofLine?_eq
  · constructor
    · intro hnone parts hparts
      rw [hparts.ofLine?_eq] at hnone
      contradiction
    · intro hnot
      rw [Option.eq_none_iff_forall_ne_some]
      intro record hrecord
      obtain ⟨parts, hparts, -⟩ := exists_divide hrecord
      exact hnot parts hparts

/-- A line break may stand between the marks, but not behind them. -/
example : ofLine? "Unit.X,\n\u3000NULL\n,\r" = some ⟨⟨"Unit", "X"⟩, "NULL"⟩ ∧
    ofLine? "Unit.X,NULL,0\n" = none := by
  decide +kernel

end UnitLint.Record
