import UnitLint.Text.Lines

/-!
# Endings of lines

How lines are ended makes no difference to the lines: with a line feed alone, or with a carriage
return in front of it. Nor does it matter whether the last line is ended; at most an empty line
comes last. All this is said of texts without carriage returns of their own. Where a line has one at
its end, one more would save it from being taken for a part of the ending.
-/

namespace UnitLint.Text

/-- A character, behind a carriage return if it is a line feed. -/
def addReturn (c : Char) : List Char :=
  if c = '\n' then ['\r', '\n'] else [c]

/-- A text with a carriage return in front of every line feed. -/
def withReturns (text : String) : String :=
  String.ofList (text.toList.flatMap addReturn)

/-- The texts that are ended in another way. Every line feed may get a carriage return, and there
may be one ending more or one less at the end. An ending that is taken off is taken off as a whole,
with its carriage return. -/
inductive IsRelined : String → String → Prop where
  | kept {text form : String} (hform : form ∈ [text, withReturns text]) : IsRelined text form
  | closed {text form ending : String} (hform : form ∈ [text, withReturns text])
      (hending : ending ∈ ["\n", "\r\n"]) : IsRelined text (form ++ ending)
  | opened {text form : String} (hform : form ∈ [text, withReturns text]) :
      IsRelined (text ++ "\n") form

theorem dropReturn_eq_self {line : List Char} (h : '\r' ∉ line) : dropReturn line = line := by
  rw [dropReturn.eq_def]
  split
  · exact absurd List.mem_cons_self h
  · rfl

/-- Behind a line feed a new line is open. -/
theorem linesFrom_newline (line cs : List Char) :
    linesFrom line ('\n' :: cs) = (dropReturn line).reverse :: linesFrom [] cs := by
  rw [linesFrom, if_pos rfl]

/-- Any other character belongs to the open line. -/
theorem linesFrom_cons {c : Char} (h : c ≠ '\n') (line cs : List Char) :
    linesFrom line (c :: cs) = linesFrom (c :: line) cs := by
  rw [linesFrom, if_neg h]

/-- Carriage returns in front of the line feeds belong to the endings, whatever follows. The
induction is on the text; an open line has no carriage return, so none of its own is dropped. -/
theorem linesFrom_addReturn {line cs : List Char} (hline : '\r' ∉ line) (hcs : '\r' ∉ cs)
    (rest : List Char) :
    linesFrom line (cs.flatMap addReturn ++ rest) = linesFrom line (cs ++ rest) := by
  induction cs generalizing line with
  | nil => rfl
  | cons c cs ih =>
    obtain ⟨hc, hlater⟩ := List.ne_and_not_mem_of_not_mem_cons hcs
    rw [List.flatMap_cons, List.append_assoc, List.cons_append, addReturn]
    by_cases hnewline : c = '\n'
    · subst hnewline
      have hnext := ih List.not_mem_nil hlater
      rw [if_pos rfl, List.cons_append, List.singleton_append, linesFrom_cons (by decide),
        linesFrom_newline, linesFrom_newline, hnext, dropReturn_eq_self hline]
      rfl
    · have hopen : '\r' ∉ c :: line := List.not_mem_cons_of_ne_of_not_mem hc hline
      rw [if_neg hnewline, List.singleton_append, linesFrom_cons hnewline,
        linesFrom_cons hnewline, ih hopen hlater]

/-- One more line feed ends the open line, or else there is an empty line. -/
theorem linesFrom_append_newline {line cs : List Char} (hline : '\r' ∉ line) (hcs : '\r' ∉ cs) :
    linesFrom line (cs ++ ['\n']) = linesFrom line cs ∨
      linesFrom line (cs ++ ['\n']) = linesFrom line cs ++ [[]] := by
  induction cs generalizing line with
  | nil =>
    rw [List.nil_append, linesFrom_newline, dropReturn_eq_self hline]
    cases line with
    | nil => exact .inr rfl
    | cons c line => exact .inl rfl
  | cons c cs ih =>
    obtain ⟨hc, hlater⟩ := List.ne_and_not_mem_of_not_mem_cons hcs
    rw [List.cons_append]
    by_cases hnewline : c = '\n'
    · subst hnewline
      rw [linesFrom_newline, linesFrom_newline, List.cons_append]
      exact (ih List.not_mem_nil hlater).imp (congrArg _) (congrArg _)
    · rw [linesFrom_cons hnewline, linesFrom_cons hnewline]
      exact ih (List.not_mem_cons_of_ne_of_not_mem hc hline) hlater

section Forms

variable {text form : String} (htext : '\r' ∉ text.toList)
  (hform : form ∈ [text, withReturns text])
include htext hform

/-- With or without carriage returns, a text has the same lines, also where it goes on. -/
theorem lines_form_append (ending : String) : lines (form ++ ending) = lines (text ++ ending) := by
  obtain rfl | hform := List.mem_cons.1 hform
  · rfl
  · obtain rfl := List.mem_singleton.1 hform
    rw [lines, lines, String.toList_append, String.toList_append, withReturns,
      String.toList_ofList, linesFrom_addReturn List.not_mem_nil htext]

theorem lines_form : lines form = lines text := by
  simpa using lines_form_append htext hform ""

/-- One more ending has the same effect in either form. -/
theorem lines_form_ended {ending : String} (hending : ending ∈ ["\n", "\r\n"]) :
    lines (form ++ ending) = lines (text ++ "\n") := by
  rw [lines_form_append htext hform]
  obtain rfl | hending := List.mem_cons.1 hending
  · rfl
  · obtain rfl := List.mem_singleton.1 hending
    have hended : '\r' ∉ text.toList ++ ['\n'] := by simpa using htext
    have hreturns := linesFrom_addReturn List.not_mem_nil hended []
    rw [List.flatMap_append, List.append_nil, List.append_nil] at hreturns
    have hmore := linesFrom_addReturn List.not_mem_nil htext ['\r', '\n']
    rw [lines, lines, String.toList_append, String.toList_append]
    exact congrArg _ (hmore.symm.trans hreturns)

end Forms

theorem lines_append_newline {text : String} (h : '\r' ∉ text.toList) :
    lines (text ++ "\n") = lines text ∨ lines (text ++ "\n") = lines text ++ [""] := by
  rw [lines, lines, String.toList_append]
  obtain heq | heq := linesFrom_append_newline List.not_mem_nil h
  · exact .inl (congrArg _ heq)
  · refine .inr ((congrArg _ heq).trans ?_)
    rw [List.map_append]
    rfl

/-- What does not attend to empty lines finds the same in a text that is ended in another way. -/
theorem IsRelined.filterMap_lines {text relined : String} (h : IsRelined text relined)
    (htext : '\r' ∉ text.toList) {α : Type} {read? : String → Option α} (hempty : read? "" = none) :
    (lines relined).filterMap read? = (lines text).filterMap read? := by
  have hended {text : String} (htext : '\r' ∉ text.toList) :
      (lines (text ++ "\n")).filterMap read? = (lines text).filterMap read? := by
    obtain heq | heq := lines_append_newline htext
    · rw [heq]
    · rw [heq, List.filterMap_append, List.filterMap_cons_none hempty, List.filterMap_nil,
        List.append_nil]
  cases h with
  | kept hform => rw [lines_form htext hform]
  | closed hform hending => rw [lines_form_ended htext hform hending, hended htext]
  | @opened body form hform =>
    have hbody : '\r' ∉ body.toList := by
      intro hmem
      rw [String.toList_append] at htext
      exact htext (List.mem_append_left _ hmem)
    rw [lines_form hbody hform, hended hbody]

end UnitLint.Text
