import UnitLint.Proofs.Text.Edits
import UnitLint.Proofs.Validator.Grammar

/-!
# Suggestions

A value that is none of the words of its key is answered with the word that was probably meant: the
one that the fewest edits lead to, the first of several as near, unless it takes more than two. All
is told by edits here, so nothing depends on how distances are computed or compared.
-/

namespace UnitLint

namespace Vocabulary

/-- Whether a word is the nearest of some words to a value, so many edits away. The first counts
where several are as near. -/
structure IsNearest (value : String) (words : List String) (word : String) (n : Nat) : Prop where
  reached : Text.Edits n value.toList word.toList
  least : ∀ other ∈ words, ∀ m, Text.Edits m value.toList other.toList → n ≤ m
  first : ∃ before after, words = before ++ word :: after ∧
    ∀ other ∈ before, ¬Text.Edits n value.toList other.toList

variable {value word other : String} {words : List String} {m n : Nat}

theorem IsNearest.mem (h : IsNearest value words word n) : word ∈ words := by
  obtain ⟨before, after, rfl, _⟩ := h.first
  exact List.mem_append_right before List.mem_cons_self

/-- Only one word is the nearest, at one distance. -/
theorem IsNearest.unique (h : IsNearest value words word n) (h' : IsNearest value words other m) :
    word = other ∧ n = m := by
  obtain rfl : n = m := Nat.le_antisymm
    (h.least other h'.mem m h'.reached) (h'.least word h.mem n h.reached)
  obtain ⟨before, after, hsplit, hbefore⟩ := h.first
  obtain ⟨before', after', hsplit', hbefore'⟩ := h'.first
  refine ⟨?_, rfl⟩
  -- were the splits different, one of the words would stand in front of the other
  rcases List.append_eq_append_iff.1 (hsplit.symm.trans hsplit') with
    ⟨between, rfl, heq⟩ | ⟨between, rfl, heq⟩
  · cases between with
    | nil => exact (List.cons.inj heq).1
    | cons c between =>
      obtain rfl := (List.cons.inj heq).1
      exact absurd h.reached (hbefore' word (by simp))
  · cases between with
    | nil => exact (List.cons.inj heq).1.symm
    | cons c between =>
      obtain rfl := (List.cons.inj heq).1
      exact absurd h'.reached (hbefore other (by simp))

theorem isLeast_distance (value word : String) :
    IsLeast {n | Text.Edits n value.toList word.toList} (distance value word) :=
  Text.isLeast_editDistance value.toList word.toList

theorem distance_le_iff :
    distance value word ≤ n ↔ ∃ m ≤ n, Text.Edits m value.toList word.toList :=
  Text.editDistance_le_iff

theorem nearest?_eq_none_iff : nearest? value words = none ↔ words = [] := by
  cases words with
  | nil => exact iff_of_true rfl rfl
  | cons first words =>
    rw [nearest?]
    split
    · simp
    · split <;> simp

/-- Whether a word is the first at the least distance: those in front of it are farther, and those
behind it are not nearer. -/
def IsFirstLeast (value : String) (words : List String) (word : String) : Prop :=
  ∃ before after, words = before ++ word :: after ∧
    (∀ other ∈ before, distance value word < distance value other) ∧
    ∀ other ∈ after, distance value word ≤ distance value other

theorem IsFirstLeast.le (h : IsFirstLeast value words word) (hother : other ∈ words) :
    distance value word ≤ distance value other := by
  obtain ⟨before, after, rfl, hbefore, hafter⟩ := h
  rcases List.mem_append.1 hother with hmem | hmem
  · exact Nat.le_of_lt (hbefore other hmem)
  · rcases List.mem_cons.1 hmem with rfl | hmem
    · exact Nat.le_refl _
    · exact hafter other hmem

theorem IsFirstLeast.cons (h : IsFirstLeast value words word)
    (hlt : distance value word < distance value other) :
    IsFirstLeast value (other :: words) word := by
  obtain ⟨before, after, rfl, hbefore, hafter⟩ := h
  exact ⟨other :: before, after, rfl, List.forall_mem_cons.2 ⟨hlt, hbefore⟩, hafter⟩

theorem IsFirstLeast.cons_self (h : IsFirstLeast value words word)
    (hle : distance value other ≤ distance value word) :
    IsFirstLeast value (other :: words) other := by
  refine ⟨[], words, rfl, List.forall_mem_nil _, ?_⟩
  intro third hthird
  exact Nat.le_trans hle (h.le hthird)

theorem isFirstLeast_of_nearest? (h : nearest? value words = some word) :
    IsFirstLeast value words word := by
  induction words generalizing word with
  | nil => cases h
  | cons first words ih =>
    rw [nearest?] at h
    split at h
    · next hnone =>
      obtain rfl := Option.some.inj h
      obtain rfl := nearest?_eq_none_iff.1 hnone
      exact ⟨[], [], rfl, List.forall_mem_nil _, List.forall_mem_nil _⟩
    · next nearest hnearest =>
      split at h
      · next hle =>
        obtain rfl := Option.some.inj h
        exact (ih hnearest).cons_self hle
      · next hlt =>
        obtain rfl := Option.some.inj h
        exact (ih hnearest).cons (Nat.lt_of_not_le hlt)

theorem IsFirstLeast.isNearest (h : IsFirstLeast value words word) :
    IsNearest value words word (distance value word) := by
  refine ⟨(isLeast_distance value word).1, ?_, ?_⟩
  · intro other hother m hm
    exact Nat.le_trans (h.le hother) ((isLeast_distance value other).2 hm)
  · obtain ⟨before, after, hsplit, hbefore, _⟩ := h
    refine ⟨before, after, hsplit, ?_⟩
    intro other hother hedits
    have hdistance := (isLeast_distance value other).2 hedits
    exact absurd (hbefore other hother) (Nat.not_lt.2 hdistance)

theorem isNearest_of_nearest? (h : nearest? value words = some word) :
    IsNearest value words word (distance value word) :=
  (isFirstLeast_of_nearest? h).isNearest

theorem nearest?_eq_some_iff :
    nearest? value words = some word ↔ ∃ n, IsNearest value words word n := by
  constructor
  · intro h
    exact ⟨distance value word, isNearest_of_nearest? h⟩
  · rintro ⟨n, hword⟩
    cases hnearest : nearest? value words with
    | none =>
      rw [nearest?_eq_none_iff.1 hnearest] at hword
      exact absurd hword.mem List.not_mem_nil
    | some other => rw [((isNearest_of_nearest? hnearest).unique hword).1]

/-- A word is taken to be meant if it is the nearest and not far away. -/
theorem meant?_eq_some_iff {vocabulary : Vocabulary} :
    vocabulary.meant? value = some word ↔
      value ≠ "" ∧ ∃ n ≤ maxSlip, IsNearest value vocabulary.words word n := by
  rw [meant?]
  split
  · next hempty => simp [hempty]
  · next hempty =>
    rw [Option.filter_eq_some_iff, nearest?_eq_some_iff, decide_eq_true_eq]
    constructor
    · rintro ⟨⟨n, hnearest⟩, hle⟩
      obtain ⟨m, hm, hedits⟩ := distance_le_iff.1 hle
      exact ⟨hempty, n, Nat.le_trans (hnearest.least word hnearest.mem m hedits) hm, hnearest⟩
    · rintro ⟨_, n, hle, hnearest⟩
      exact ⟨⟨n, hnearest⟩, distance_le_iff.2 ⟨n, hle, hnearest.reached⟩⟩

/-- Some word is taken to be meant if any word is not far away. -/
theorem exists_meant?_iff {vocabulary : Vocabulary} :
    (∃ word, vocabulary.meant? value = some word) ↔
      value ≠ "" ∧ ∃ word ∈ vocabulary.words, ∃ n ≤ maxSlip,
        Text.Edits n value.toList word.toList := by
  simp only [meant?_eq_some_iff, exists_and_left]
  refine and_congr_right fun _ => ?_
  constructor
  · rintro ⟨word, n, hle, hnearest⟩
    exact ⟨word, hnearest.mem, n, hle, hnearest.reached⟩
  · rintro ⟨word, hmem, n, hle, hedits⟩
    cases hnearest : nearest? value vocabulary.words with
    | none =>
      rw [nearest?_eq_none_iff.1 hnearest] at hmem
      exact absurd hmem List.not_mem_nil
    | some nearest =>
      have hbest := isNearest_of_nearest? hnearest
      exact ⟨nearest, distance value nearest, Nat.le_trans (hbest.least word hmem n hedits) hle,
        hbest⟩

/-- What is said about a value that is none of the words, up to the suggestion. -/
def complaint (vocabulary : Vocabulary) (value : String) : String :=
  Rejection.inQuotes value ++ " is not a valid value for " ++ vocabulary.key ++
    "= (expected one of: " ++ ", ".intercalate vocabulary.words

/-- The end of what is said: the word that was meant, if there is one. -/
def suggestion : Option String → String
  | some word => "; did you mean " ++ Rejection.inQuotes word ++ "?)"
  | none => ")"

theorem message_notListed (vocabulary : Vocabulary) (value : String) (meant? : Option String) :
    (Rejection.notListed vocabulary.key vocabulary.words value meant?).message =
      vocabulary.complaint value ++ suggestion meant? := by
  cases meant? with
  | none => rfl
  | some word => rfl

theorem head?_suggestion (word : String) : (suggestion (some word)).toList.head? = some ';' := by
  have hstart : "; did you mean ".toList.head? = some ';' := by decide +kernel
  show ("; did you mean " ++ Rejection.inQuotes word ++ "?)").toList.head? = some ';'
  rw [String.toList_append, String.toList_append, List.append_assoc, List.head?_append, hstart,
    Option.some_or]

/-- What is said differs from the first character on, as something is suggested or nothing is. -/
theorem suggestion_some_ne_none (word : String) : suggestion (some word) ≠ suggestion none := by
  have hnone : (suggestion none).toList.head? = some ')' := by decide +kernel
  intro h
  rw [← h, head?_suggestion] at hnone
  exact absurd hnone (by decide)

/-- A suggestion can be read off its text. -/
theorem suggestion_injective {meant? meant?' : Option String}
    (h : suggestion meant? = suggestion meant?') : meant? = meant?' := by
  cases meant? with
  | none =>
    cases meant?' with
    | none => rfl
    | some word => exact absurd h.symm (suggestion_some_ne_none word)
  | some word =>
    cases meant?' with
    | none => exact absurd h (suggestion_some_ne_none word)
    | some word' =>
      have hquoted := (String.append_right_inj _).1 ((String.append_left_inj _).1 h)
      rw [Rejection.inQuotes_injective hquoted]

end Vocabulary

namespace Validator

/-- The words that a validator takes, if it takes but a few. -/
def vocabulary? : Validator → Option Vocabulary
  | serviceType => some .serviceType
  | restartPolicy => some .restartPolicy
  | killMode => some .killMode
  | _ => none

variable {validator : Validator} {vocabulary : Vocabulary}

theorem reject?_vocabulary (h : validator.vocabulary? = some vocabulary) (value : String) :
    validator.reject? value = vocabulary.reject? value := by
  cases validator with
  | serviceType | restartPolicy | killMode =>
    obtain rfl := Option.some.inj h
    rfl
  | boolean | modeString | documentation | null => cases h

/-- What is said about a value that is none of the words, with what it was taken to mean. -/
theorem diagnose?_eq_some_iff (h : validator.vocabulary? = some vocabulary) {value : String}
    (hvalue : Text.trim value ∉ vocabulary.words) {meant? : Option String} :
    validator.diagnose? value =
        some (vocabulary.complaint (Text.trim value) ++ Vocabulary.suggestion meant?) ↔
      vocabulary.meant? (Text.trim value) = meant? := by
  rw [diagnose?, reject?_vocabulary h, Vocabulary.reject?, if_neg hvalue, Option.map_some,
    Vocabulary.message_notListed, Option.some.injEq]
  constructor
  · intro htext
    exact Vocabulary.suggestion_injective ((String.append_right_inj _).1 htext)
  · rintro rfl
    rfl

/-- Exactly the words are accepted. Of a value that is none of them, what is said ends in a
suggestion if and only if the value is not empty and no more than two edits lead to some word, and
then the nearest word is suggested. -/
theorem diagnose?_suggestion (h : validator.vocabulary? = some vocabulary) (value : String) :
    (validator.diagnose? value = none ↔ Text.trim value ∈ vocabulary.words) ∧
      (Text.trim value ∉ vocabulary.words →
        (∀ word,
          validator.diagnose? value =
              some (vocabulary.complaint (Text.trim value) ++
                Vocabulary.suggestion (some word)) ↔
            Text.trim value ≠ "" ∧ ∃ n, (n = 1 ∨ n = 2) ∧
              Vocabulary.IsNearest (Text.trim value) vocabulary.words word n) ∧
        ((∃ word,
            validator.diagnose? value =
              some (vocabulary.complaint (Text.trim value) ++
                Vocabulary.suggestion (some word))) ↔
          Text.trim value ≠ "" ∧ ∃ word ∈ vocabulary.words, ∃ n ≤ 2,
            Text.Edits n (Text.trim value).toList word.toList) ∧
        (validator.diagnose? value =
            some (vocabulary.complaint (Text.trim value) ++ Vocabulary.suggestion none) ↔
          ¬(Text.trim value ≠ "" ∧ ∃ word ∈ vocabulary.words, ∃ n ≤ 2,
            Text.Edits n (Text.trim value).toList word.toList))) := by
  refine ⟨?_, fun hvalue => ⟨fun word => ?_, ?_, ?_⟩⟩
  · rw [diagnose?, Option.map_eq_none_iff, reject?_vocabulary h,
      Vocabulary.reject?_eq_none_iff]
  · rw [diagnose?_eq_some_iff h hvalue, Vocabulary.meant?_eq_some_iff]
    refine and_congr_right fun _ => exists_congr fun n => and_congr_left fun hnearest => ?_
    -- no edit at all would lead to a word only from the word itself
    have hne : n ≠ 0 := by
      rintro rfl
      have heq := String.toList_inj.1 (Text.edits_zero_iff.1 hnearest.reached)
      exact hvalue (heq ▸ hnearest.mem)
    show n ≤ 2 ↔ n = 1 ∨ n = 2
    omega
  · simp only [diagnose?_eq_some_iff h hvalue]
    exact Vocabulary.exists_meant?_iff
  · rw [diagnose?_eq_some_iff h hvalue, ← Option.not_isSome_iff_eq_none, Option.isSome_iff_exists]
    exact not_congr Vocabulary.exists_meant?_iff

/-- Two words are two substitutions away, and the first of them is suggested. -/
theorem diagnose?_suggestion_tie :
    Text.Edits 2 "exle".toList "idle".toList ∧
      serviceType.vocabulary? = some .serviceType ∧
      serviceType.diagnose? " exle\n" =
        some ("'exle' is not a valid value for Type= (expected one of: simple, exec, forking, " ++
          "oneshot, dbus, notify, notify-reload, idle; did you mean 'exec'?)") := by
  have hwords : serviceType.vocabulary? = some .serviceType := rfl
  have htrim : Text.trim " exle\n" = "exle" := by decide +kernel
  have hnearest : Vocabulary.nearest? "exle" Vocabulary.serviceType.words = some "exec" := by
    decide +kernel
  have hexec : Vocabulary.distance "exle" "exec" = 2 := by decide +kernel
  have hidle : Vocabulary.distance "exle" "idle" = 2 := by decide +kernel
  refine ⟨hidle ▸ (Vocabulary.isLeast_distance "exle" "idle").1, hwords, ?_⟩
  have hnew : Text.trim " exle\n" ∉ Vocabulary.serviceType.words := by
    rw [htrim]
    decide
  have hsaid := ((diagnose?_suggestion hwords " exle\n").2 hnew).1 "exec"
  rw [htrim] at hsaid
  exact hsaid.2 ⟨by decide, 2, .inr rfl, hexec ▸ Vocabulary.isNearest_of_nearest? hnearest⟩

end Validator

end UnitLint
