import UnitLint.Proofs.Validator.Booleans
import UnitLint.Proofs.Validator.Modes
import UnitLint.Proofs.Validator.References
import UnitLint.Proofs.Validator.Suggestion

/-!
# What messages tell

A message tells what was turned away. A value is quoted as it is, so it may hold quotes, or all of a
message, and where the quotation ends cannot be seen from the front. It can be seen from the back:
behind a quotation no quote is used but those of a suggestion, and no word that is suggested has
one. In a list of bad entries the commas part them, because no entry has a comma.
-/

namespace UnitLint

namespace Rejection

variable {text text' behind behind' : String}

/-- A text is divided at its last quote in one way only. -/
theorem lastQuote_unique (h : '\'' ∉ behind.toList) (h' : '\'' ∉ behind'.toList)
    (heq : text ++ "'" ++ behind = text' ++ "'" ++ behind') : text = text' ∧ behind = behind' := by
  have hchars := congrArg (List.reverse ∘ String.toList) heq
  simp only [Function.comp_apply, String.toList_append, List.reverse_append, List.append_assoc]
    at hchars
  obtain ⟨hbehind, hfront⟩ := Text.firstMark_unique (mt List.mem_reverse.1 h)
    (mt List.mem_reverse.1 h') hchars
  exact ⟨String.toList_inj.1 (List.reverse_injective hfront),
    String.toList_inj.1 (List.reverse_injective hbehind)⟩

/-- Of a quotation, all can be told if there are no quotes behind it. -/
theorem inQuotes_append_unique (h : '\'' ∉ behind.toList) (h' : '\'' ∉ behind'.toList)
    (heq : inQuotes text ++ behind = inQuotes text' ++ behind') :
    text = text' ∧ behind = behind' := by
  obtain ⟨hfront, hbehind⟩ := lastQuote_unique h h' heq
  exact ⟨(String.append_right_inj _).1 hfront, hbehind⟩

end Rejection

namespace Vocabulary

variable {vocabulary : Vocabulary} {value value' : String}

/-- What is said behind a value that is none of the words if nothing is suggested. -/
def remark (vocabulary : Vocabulary) : String :=
  " is not a valid value for " ++ vocabulary.key ++ "= (expected one of: " ++
    ", ".intercalate vocabulary.words ++ ")"

theorem complaint_append_none (vocabulary : Vocabulary) (value : String) :
    vocabulary.complaint value ++ suggestion none =
      Rejection.inQuotes value ++ vocabulary.remark := by
  unfold complaint remark suggestion
  simp only [String.append_assoc]

theorem complaint_append_some (vocabulary : Vocabulary) (value word : String) :
    vocabulary.complaint value ++ suggestion (some word) =
      vocabulary.complaint value ++ "; did you mean " ++ "'" ++ word ++ "'" ++ "?)" := by
  unfold suggestion Rejection.inQuotes
  simp only [String.append_assoc]

theorem complaint_injective (h : vocabulary.complaint value = vocabulary.complaint value') :
    value = value' := by
  unfold complaint at h
  simp only [String.append_left_inj] at h
  exact Rejection.inQuotes_injective h

/-- A vocabulary in which quotes are not used. -/
structure IsUnquoted (vocabulary : Vocabulary) : Prop where
  remark : '\'' ∉ vocabulary.remark.toList
  words : ∀ word ∈ vocabulary.words, '\'' ∉ word.toList

theorem isUnquoted_serviceType : serviceType.IsUnquoted := ⟨by decide +kernel, by decide +kernel⟩

theorem isUnquoted_restartPolicy : restartPolicy.IsUnquoted :=
  ⟨by decide +kernel, by decide +kernel⟩

theorem isUnquoted_killMode : killMode.IsUnquoted := ⟨by decide +kernel, by decide +kernel⟩

/-- Behind the last quote stands the remark, or else the end of a suggestion. -/
theorem IsUnquoted.complaint_none_ne_some (h : vocabulary.IsUnquoted) (word : String) :
    vocabulary.complaint value ++ suggestion none ≠
      vocabulary.complaint value' ++ suggestion (some word) := by
  rw [complaint_append_none, complaint_append_some]
  intro heq
  have hremark := (Rejection.lastQuote_unique h.remark (by decide) heq).2
  have hfirst : vocabulary.remark.toList.head? = some ' ' := by
    unfold Vocabulary.remark
    simp only [String.toList_append, List.append_assoc, List.head?_append]
    rfl
  rw [hremark] at hfirst
  exact absurd hfirst (by decide)

/-- A value that is none of the words is told by the message, whatever is suggested. -/
theorem IsUnquoted.value_unique (h : vocabulary.IsUnquoted) {meant? meant?' : Option String}
    (hmeant : ∀ word ∈ meant?, word ∈ vocabulary.words)
    (hmeant' : ∀ word ∈ meant?', word ∈ vocabulary.words)
    (heq : vocabulary.complaint value ++ suggestion meant? =
      vocabulary.complaint value' ++ suggestion meant?') : value = value' := by
  cases meant? with
  | none =>
    cases meant?' with
    | none => exact complaint_injective ((String.append_left_inj _).1 heq)
    | some word' => exact absurd heq (h.complaint_none_ne_some word')
  | some word =>
    cases meant?' with
    | none => exact absurd heq.symm (h.complaint_none_ne_some word)
    | some word' =>
      rw [complaint_append_some, complaint_append_some, String.append_left_inj,
        String.append_left_inj] at heq
      have hword := h.words word (hmeant word rfl)
      have hword' := h.words word' (hmeant' word' rfl)
      have hfront := (Rejection.lastQuote_unique hword hword' heq).1
      exact complaint_injective ((String.append_left_inj _).1 hfront)

theorem mem_words_of_meant? {word : String} (h : word ∈ vocabulary.meant? value) :
    word ∈ vocabulary.words := by
  obtain ⟨_, _, _, hnearest⟩ := meant?_eq_some_iff.1 h
  exact hnearest.mem

theorem eq_of_reject? {rejection : Rejection} (h : vocabulary.reject? value = some rejection) :
    rejection = .notListed vocabulary.key vocabulary.words (Text.trim value)
      (vocabulary.meant? (Text.trim value)) := by
  rw [reject?] at h
  split at h
  · cases h
  · exact (Option.some.inj h).symm

theorem IsUnquoted.trim_eq (h : vocabulary.IsUnquoted) {rejection rejection' : Rejection}
    (hvalue : vocabulary.reject? value = some rejection)
    (hvalue' : vocabulary.reject? value' = some rejection')
    (hmessage : rejection.message = rejection'.message) : Text.trim value = Text.trim value' := by
  rw [eq_of_reject? hvalue, eq_of_reject? hvalue', message_notListed, message_notListed] at hmessage
  exact h.value_unique (fun _ => mem_words_of_meant?) (fun _ => mem_words_of_meant?) hmessage

end Vocabulary

namespace Validator

variable {validator : Validator} {value value' : String} {rejection rejection' : Rejection}

/-! ## Booleans and modes -/

theorem rejectionOf?_eq_some_iff {α : Type} {result : Except Rejection α} :
    rejectionOf? result = some rejection ↔ result = .error rejection := by
  cases result with
  | ok a => simp [rejectionOf?]
  | error other => simp [rejectionOf?]

theorem eq_of_reject?_boolean (h : boolean.reject? value = some rejection) :
    rejection = .notBoolean (Text.trim value) := by
  have hparse : parseBoolean value = .error rejection := rejectionOf?_eq_some_iff.1 h
  exact (parseBoolean_eq_error_iff.1 hparse).2

theorem trim_eq_of_boolean (h : boolean.reject? value = some rejection)
    (h' : boolean.reject? value' = some rejection')
    (hmessage : rejection.message = rejection'.message) : Text.trim value = Text.trim value' := by
  rw [eq_of_reject?_boolean h, eq_of_reject?_boolean h'] at hmessage
  exact Rejection.inQuotes_injective ((String.append_left_inj _).1 hmessage)

/-- Behind a value that is no mode, one of two remarks is made. Neither uses quotes. -/
theorem exists_remark_of_modeString (h : modeString.reject? value = some rejection) :
    ∃ remark, '\'' ∉ remark.toList ∧
      rejection.message = Rejection.inQuotes (Text.trim value) ++ remark := by
  rw [reject?, parseMode_eq] at h
  split at h
  · cases h
  · split at h
    · obtain rfl := Option.some.inj h
      exact ⟨_, by decide +kernel, rfl⟩
    · obtain rfl := Option.some.inj h
      exact ⟨_, by decide +kernel, rfl⟩

theorem trim_eq_of_modeString (h : modeString.reject? value = some rejection)
    (h' : modeString.reject? value' = some rejection')
    (hmessage : rejection.message = rejection'.message) : Text.trim value = Text.trim value' := by
  obtain ⟨remark, hremark, htext⟩ := exists_remark_of_modeString h
  obtain ⟨remark', hremark', htext'⟩ := exists_remark_of_modeString h'
  rw [htext, htext'] at hmessage
  exact (Rejection.inQuotes_append_unique hremark hremark' hmessage).1

/-! ## Lists of bad entries -/

/-- A list between whose items there are commas is told from its text if there are none inside. -/
theorem intercalate_unique {items items' : List (List Char)} (hne : items ≠ []) (hne' : items' ≠ [])
    (h : ∀ item ∈ items, ',' ∉ item) (h' : ∀ item ∈ items', ',' ∉ item)
    (heq : [',', ' '].intercalate items = [',', ' '].intercalate items') : items = items' := by
  induction items generalizing items' with
  | nil => exact absurd rfl hne
  | cons first others ih =>
    obtain ⟨first', others', rfl⟩ := List.exists_cons_of_ne_nil hne'
    obtain ⟨hfirst, hothers⟩ := List.forall_mem_cons.1 h
    obtain ⟨hfirst', hothers'⟩ := List.forall_mem_cons.1 h'
    -- the first comma is the one behind the first item, if there are others
    cases others with
    | nil =>
      cases others' with
      | nil => simpa using heq
      | cons second' others' =>
        rw [List.intercalate_singleton, List.intercalate_cons_cons] at heq
        exact absurd (by simp [heq]) hfirst
    | cons second others =>
      cases others' with
      | nil =>
        rw [List.intercalate_singleton, List.intercalate_cons_cons] at heq
        exact absurd (by simp [← heq]) hfirst'
      | cons second' others' =>
        rw [List.intercalate_cons_cons, List.intercalate_cons_cons, List.append_assoc,
          List.append_assoc] at heq
        obtain ⟨rfl, hrest⟩ := Text.firstMark_unique hfirst hfirst' heq
        rw [ih (List.cons_ne_nil _ _) (List.cons_ne_nil _ _) hothers hothers'
          (List.cons.inj hrest).2]

theorem complaintOfMany_injective {entries entries' : List String} (hne : entries ≠ [])
    (hne' : entries' ≠ []) (hcomma : ∀ entry ∈ entries, ',' ∉ entry.toList)
    (hcomma' : ∀ entry ∈ entries', ',' ∉ entry.toList)
    (h : complaintOfMany entries = complaintOfMany entries') : entries = entries' := by
  have hquoted : ∀ entries : List String, (∀ entry ∈ entries, ',' ∉ entry.toList) →
      ∀ item ∈ entries.map (String.toList ∘ Rejection.inQuotes), ',' ∉ item := by
    intro entries hcomma
    rw [List.forall_mem_map]
    intro entry hentry
    simpa [Rejection.inQuotes] using hcomma entry hentry
  have hinjective : Function.Injective (String.toList ∘ Rejection.inQuotes) :=
    fun _ _ heq => Rejection.inQuotes_injective (String.toList_inj.1 heq)
  unfold complaintOfMany at h
  rw [String.append_left_inj, String.append_left_inj, String.append_right_inj,
    ← String.toList_inj, String.toList_intercalate, String.toList_intercalate, List.map_map,
    List.map_map] at h
  apply List.map_injective_iff.2 hinjective
  exact intercalate_unique (mt List.map_eq_nil_iff.1 hne) (mt List.map_eq_nil_iff.1 hne')
    (hquoted entries hcomma) (hquoted entries' hcomma') h

theorem comma_not_mem_of_mem_badReferences {entry : String} (h : entry ∈ badReferences value) :
    ',' ∉ entry.toList := by
  obtain ⟨-, -, -, -, hentry, -, -⟩ := mem_listEntries.1 (List.mem_filter.1 h).1
  intro hcomma
  exact absurd (hentry ',' hcomma) (by decide)

theorem wording_of_documentation {message : String}
    (h : documentation.diagnose? value = some message) :
    (∃ entry, badReferences value = [entry] ∧ message = complaintOfOne entry) ∨
      badReferences value ≠ [] ∧ message = complaintOfMany (badReferences value) := by
  rw [diagnose?_documentation] at h
  split at h
  · cases h
  · next entry hentry => exact .inl ⟨entry, hentry, (Option.some.inj h).symm⟩
  · next hne _ => exact .inr ⟨hne, (Option.some.inj h).symm⟩

theorem badReferences_eq_of_documentation {message : String}
    (h : documentation.diagnose? value = some message)
    (h' : documentation.diagnose? value' = some message) :
    badReferences value = badReferences value' := by
  rcases wording_of_documentation h with ⟨entry, hone, hsaid⟩ | ⟨hne, hsaid⟩
  · rcases wording_of_documentation h' with ⟨entry', hone', hsaid'⟩ | ⟨hne', hsaid'⟩
    · rw [hone, hone', complaintOfOne_injective (hsaid.symm.trans hsaid')]
    · exact absurd (hsaid.symm.trans hsaid') (complaintOfOne_ne entry _)
  · rcases wording_of_documentation h' with ⟨entry', hone', hsaid'⟩ | ⟨hne', hsaid'⟩
    · exact absurd (hsaid'.symm.trans hsaid) (complaintOfOne_ne entry' _)
    · exact complaintOfMany_injective hne hne' (fun _ => comma_not_mem_of_mem_badReferences)
        (fun _ => comma_not_mem_of_mem_badReferences) (hsaid.symm.trans hsaid')

/-! ## All validators -/

/-- What a validator objects to in a value that it turns away: entries of a list, or else the whole
value but for the blanks at its ends. -/
def offending (validator : Validator) (value : String) : List String :=
  match validator with
  | documentation => badReferences value
  | boolean | serviceType | restartPolicy | killMode | modeString | null => [Text.trim value]

/-- Nothing but what a validator objects to decides what is said. -/
theorem reject?_congr (h : validator.offending value = validator.offending value') :
    validator.reject? value = validator.reject? value' := by
  cases validator with
  | boolean =>
    rw [reject?, parseBoolean, (List.cons.inj h).1, reject?, parseBoolean]
  | serviceType | restartPolicy | killMode =>
    have htrim : Text.trim value = Text.trim value' := (List.cons.inj h).1
    rw [reject?, Vocabulary.reject?, htrim, reject?, Vocabulary.reject?]
  | modeString => rw [reject?, parseMode, (List.cons.inj h).1, reject?, parseMode]
  | documentation =>
    have hentries : badReferences value = badReferences value' := h
    rw [reject?, rejectReferences?, hentries, reject?, rejectReferences?]
  | null => rfl

theorem offending_eq_of_message_eq {message : String} (h : validator.diagnose? value = some message)
    (h' : validator.diagnose? value' = some message) :
    validator.offending value = validator.offending value' := by
  obtain ⟨rejection, hreject, hmessage⟩ := Option.map_eq_some_iff.1 h
  obtain ⟨rejection', hreject', hmessage'⟩ := Option.map_eq_some_iff.1 h'
  have heq : rejection.message = rejection'.message := hmessage.trans hmessage'.symm
  cases validator with
  | boolean => exact List.singleton_inj.2 (trim_eq_of_boolean hreject hreject' heq)
  | serviceType =>
    exact List.singleton_inj.2
      (Vocabulary.isUnquoted_serviceType.trim_eq hreject hreject' heq)
  | restartPolicy =>
    exact List.singleton_inj.2
      (Vocabulary.isUnquoted_restartPolicy.trim_eq hreject hreject' heq)
  | killMode =>
    exact List.singleton_inj.2 (Vocabulary.isUnquoted_killMode.trim_eq hreject hreject' heq)
  | modeString => exact List.singleton_inj.2 (trim_eq_of_modeString hreject hreject' heq)
  | documentation => exact badReferences_eq_of_documentation h h'
  | null => cases hreject

/-- Of two values that a validator turns away the same is said exactly if it objects to the same in
both: to the same entries of a list, in the same order and as often, or else to the same value but
for the blanks at its ends. -/
theorem diagnose?_tells_offending {message message' : String}
    (h : validator.diagnose? value = some message)
    (h' : validator.diagnose? value' = some message') :
    message = message' ↔ validator.offending value = validator.offending value' := by
  constructor
  · rintro rfl
    exact offending_eq_of_message_eq h h'
  · intro hoffending
    rw [diagnose?, reject?_congr hoffending] at h
    exact Option.some.inj (h.symm.trans h')

/-- Quotes inside the entries of one list, and the same entries without them. -/
theorem diagnose?_tells_offending_quotes :
    documentation.diagnose? "x' 'y" = some (complaintOfMany ["x'", "'y"]) ∧
      documentation.diagnose? "x,y" = some (complaintOfMany ["x", "y"]) ∧
      complaintOfMany ["x'", "'y"] ≠ complaintOfMany ["x", "y"] := by
  have hquotes : documentation.diagnose? "x' 'y" = some (complaintOfMany ["x'", "'y"]) := by
    decide +kernel
  have hplain : documentation.diagnose? "x,y" = some (complaintOfMany ["x", "y"]) := by
    decide +kernel
  refine ⟨hquotes, hplain, fun heq => ?_⟩
  have hoffending := (diagnose?_tells_offending hquotes hplain).1 heq
  exact absurd hoffending (by decide +kernel)

end Validator

end UnitLint
