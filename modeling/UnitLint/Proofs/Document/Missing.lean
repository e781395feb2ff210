import UnitLint.Proofs.Document.Answer
import UnitLint.Proofs.Document.Walk

/-!
# Missing documents

A document that is not there is no fault, as long as the file system can tell that it is not there.
It cannot where a file stands in the place of a directory on the way, or where a name or the path is
one that no file can have. A store then answers with a fault although nothing is there, and the
lookup of a description warns of it.
-/

namespace UnitLint.Document

/-- The only events of a lookup are warnings that a description cannot be read or is no text. -/
theorem level_of_mem_events_blurb? {store : Store} {setting : Setting} {event : Event}
    (hevent : event ∈ (blurb? store setting).events) : event.level = .warn := by
  by_cases hplain : isPlain setting
  · exact (comesOf_blurb? store hplain).level_of_mem hevent
  · rw [blurb?_of_not_isPlain store hplain] at hevent
    contradiction

/-- A missing description is looked up without an event, and a fault of the store gives one. -/
theorem events_blurb?_eq_nil_iff {store : Store} {setting : Setting}
    (hmissing : ∀ bytes, store (blurbPath setting.sectionName setting.key) ≠ .ok (some bytes)) :
    (blurb? store setting).events = [] ↔
      (isPlain setting → store (blurbPath setting.sectionName setting.key) = .ok none) := by
  by_cases hplain : isPlain setting
  · rw [(comesOf_blurb? store hplain).events_eq_nil_iff]
    simp only [hplain, hmissing, exists_false, or_false, true_imp_iff]
  · simp [blurb?_of_not_isPlain store hplain, hplain]

namespace FileTree

variable {tree : FileTree} {path : String}

theorem exists_of_store_eq_some {bytes : ByteArray} (h : tree.store path = .ok (some bytes)) :
    tree.Exists path := by
  refine Classical.not_not.1 fun hmissing => ?_
  rcases store_of_not_exists hmissing with hnone | ⟨fault, herror, -⟩
  · simp [h] at hnone
  · simp [h] at herror

/-- The absence of a document is told exactly where there is nothing and nothing obstructs the
path. -/
theorem store_eq_none_iff_missing :
    tree.store path = .ok none ↔ ¬ tree.Exists path ∧ ∀ fault, ¬ tree.Obstructs path fault := by
  constructor
  · exact fun h => ⟨fun hexists => hexists.store_ne h, fun _ hobstructs => hobstructs.store_ne h⟩
  · rintro ⟨hmissing, hclear⟩
    rcases store_of_not_exists hmissing with h | ⟨fault, -, hobstructs⟩
    · exact h
    · exact absurd hobstructs (hclear fault)

theorem exists_or_obstructs_of_error {fault : ReadFault} (h : tree.store path = .error fault) :
    tree.Exists path ∨ tree.Obstructs path fault := by
  by_cases hexists : tree.Exists path
  · exact .inl hexists
  rcases store_of_not_exists hexists with hnone | ⟨fault', herror, hobstructs⟩
  · simp [h] at hnone
  · rw [h] at herror
    obtain rfl := Except.error.inj herror
    exact .inr hobstructs

theorem exists_warn_iff {setting : Setting}
    (hmissing : ¬ tree.Exists (blurbPath setting.sectionName setting.key)) :
    (∃ event ∈ (blurb? tree.store setting).events, event.level = .warn) ↔
      isPlain setting ∧
        ∃ fault, tree.Obstructs (blurbPath setting.sectionName setting.key) fault := by
  have hevents := events_blurb?_eq_nil_iff fun _ h => hmissing (exists_of_store_eq_some h)
  rw [store_eq_none_iff_missing] at hevents
  constructor
  · rintro ⟨event, hevent, -⟩
    have hne : (blurb? tree.store setting).events ≠ [] := List.ne_nil_of_mem hevent
    rw [Ne, hevents, Classical.not_imp] at hne
    obtain ⟨hplain, hclear⟩ := hne
    exact ⟨hplain, Classical.not_forall_not.1 fun hfault => hclear ⟨hmissing, hfault⟩⟩
  · rintro ⟨hplain, fault, hobstructs⟩
    have hne : (blurb? tree.store setting).events ≠ [] := by
      rw [Ne, hevents]
      exact fun h => (h hplain).2 fault hobstructs
    obtain ⟨event, hevent⟩ := List.exists_mem_of_ne_nil _ hne
    exact ⟨event, hevent, level_of_mem_events_blurb? hevent⟩

/-- A store answers that there is no document exactly where there is nothing and nothing obstructs
the path; a fault means that something is there or that the path is obstructed. The lookup of a
description that is not there gives a warning exactly if its path is obstructed. -/
theorem store_missing_iff (tree : FileTree) (path : String) :
    (tree.store path = .ok none ↔ ¬ tree.Exists path ∧ ∀ fault, ¬ tree.Obstructs path fault) ∧
    (∀ fault, tree.store path = .error fault → tree.Exists path ∨ tree.Obstructs path fault) ∧
    ∀ setting, path = blurbPath setting.sectionName setting.key → ¬ tree.Exists path →
      ((∃ event ∈ (blurb? tree.store setting).events, event.level = .warn) ↔
        isPlain setting ∧ ∃ fault, tree.Obstructs path fault) := by
  refine ⟨store_eq_none_iff_missing, fun _ h => exists_or_obstructs_of_error h, ?_⟩
  rintro setting rfl hmissing
  exact exists_warn_iff hmissing

/-- Below a directory without descriptions there is none, and nothing is reported. -/
theorem store_missing_iff_empty :
    (directory [("documents", directory [])]).store "documents/completion/Unit/X.html" = .ok none ∧
    ¬ (directory [("documents", directory [])]).Exists "documents/completion/Unit/X.html" ∧
    ¬ ∃ event ∈ (blurb? (directory [("documents", directory [])]).store ⟨"Unit", "X"⟩).events,
      event.level = .warn := by
  obtain ⟨hnone, -, hwarn⟩ := store_missing_iff (directory [("documents", directory [])])
    "documents/completion/Unit/X.html"
  have hanswer : (directory [("documents", directory [])]).store
      "documents/completion/Unit/X.html" = .ok none := rfl
  obtain ⟨hmissing, hclear⟩ := hnone.1 hanswer
  refine ⟨hanswer, hmissing, ?_⟩
  rw [hwarn ⟨"Unit", "X"⟩ rfl hmissing]
  exact fun h => h.2.elim hclear

/-- A file stands in the place of the directory of documents: the document is not there, and yet
the store gives a fault and the lookup a warning. -/
theorem store_missing_behind_file :
    ¬ (directory [("documents", file .empty)]).Exists "documents/completion/Unit/X.html" ∧
    (directory [("documents", file .empty)]).store "documents/completion/Unit/X.html" =
      .error .notADirectory ∧
    (blurb? (directory [("documents", file .empty)]).store ⟨"Unit", "X"⟩).events =
      [.blurbUnreadable "documents/completion/Unit/X.html" .notADirectory] ∧
    (Event.blurbUnreadable "documents/completion/Unit/X.html" .notADirectory).level = .warn := by
  refine ⟨?_, rfl, rfl, rfl⟩
  rintro ⟨target, hleads, hne⟩
  have hread := read_of_leads (by decide) (by decide) hleads
  have hfault : (directory [("documents", file .empty)]).read "documents/completion/Unit/X.html" =
      .error .notADirectory := rfl
  rw [hfault] at hread
  cases hseen : (directory [("documents", file .empty)]).seenFrom target with
  | nothing => contradiction
  | file bytes => simp [hseen, content] at hread
  | directory entries => simp [hseen, content] at hread

end FileTree

end UnitLint.Document
