import UnitLint.Proofs.Document.Listing
import UnitLint.Proofs.Session.Frozen

/-!
# Directories kept in memory

A registry can be built from a directory, or from the texts of the two tables together with all
files of the directory by their paths. Either way the same error is met, or every question is
answered alike: the two ways of looking up a description fail differently, but they find the same
texts.
-/

namespace UnitLint

/-- Whether a step asks the registry, and does not touch the directory, the documents of the source
or what a library remembers. -/
def Step.isQuestion : Step → Bool
  | readDocument _ | requests | writeFile _ _ | makeDirectory _ | removeFile _ => false
  | _ => true

namespace Session

/-- A session that has the files of the directory in memory, below which another one looks up
descriptions. -/
structure InMemory (first second : Session) : Prop where
  catalog : second.registry.catalog = first.registry.catalog
  records : second.registry.records = first.registry.records
  library : first.registry.library = .directory
  listed : second.registry.library = .listed first.tree.documents
  problems : second.problems = first.problems

/-- Two beginnings of which neither can be told from the other by asking: both fail with the same
fault of the catalog, or both lead to sessions that answer all questions alike. -/
inductive Agree : Except LoadError Session → Except LoadError Session → Prop
  | catalog (error : Json.Error) : Agree (.error (.catalog error)) (.error (.catalog error))
  | noSections : Agree (.error .noSections) (.error .noSections)
  | session {first second : Session}
      (hanswers : ∀ steps : List Step, (∀ step ∈ steps, step.isQuestion) →
        (first.run steps).value.1 = (second.run steps).value.1) :
      Agree (.ok first) (.ok second)

variable {first second : Session} {step : Step}

theorem remember_tree (session : Session) (paths : List String) :
    (session.remember paths).tree = session.tree := by
  rw [remember]
  split <;> rfl

/-- Questions leave the directory as it is. -/
theorem step_tree (session : Session) (hquestion : step.isQuestion) :
    (session.step step).value.2.tree = session.tree := by
  rw [Session.step, remember_tree]
  cases step with
  | readDocument | requests | writeFile | makeDirectory | removeFile => contradiction
  | _ => rfl

/-! ## One question -/

theorem InMemory.step_answer (h : InMemory first second) (hquestion : step.isQuestion) :
    (first.step step).value.1 = (second.step step).value.1 := by
  obtain ⟨⟨catalog, records, library⟩, ownLibrary, tree, problems, requests⟩ := first
  obtain ⟨⟨catalog', records', library'⟩, ownLibrary', tree', problems', requests'⟩ := second
  obtain ⟨hcatalog, hrecords, hlibrary, hlisted, hproblems⟩ := h
  dsimp only at hcatalog hrecords hlibrary hlisted hproblems
  subst hcatalog hrecords hlibrary hlisted hproblems
  cases step with
  | readDocument | requests | writeFile | makeDirectory | removeFile => contradiction
  | blurb setting => exact congrArg Answer.text (Document.value_blurb?_documents tree setting).symm
  | _ => rfl

theorem InMemory.step_session (h : InMemory first second) (hquestion : step.isQuestion) :
    InMemory (first.step step).value.2 (second.step step).value.2 where
  catalog := by rw [step_registry, step_registry, h.catalog]
  records := by rw [step_registry, step_registry, h.records]
  library := by rw [step_registry, h.library]
  listed := by rw [step_registry, step_tree first hquestion, h.listed]
  problems := by
    have hproblem : Inspection.problem? second.registry = Inspection.problem? first.registry := by
      funext property
      rw [Inspection.problem?, Inspection.problem?]
      simp only [Inspection.checkValue, Registry.validatorFor, Registry.validatorName?, h.records]
    rw [step_problems, step_problems, h.problems, hproblem]

/-! ## All questions -/

theorem InMemory.run_answers (h : InMemory first second) {steps : List Step}
    (hquestions : ∀ step ∈ steps, step.isQuestion) :
    (first.run steps).value.1 = (second.run steps).value.1 := by
  induction steps generalizing first second with
  | nil => rfl
  | cons step steps ih =>
    obtain ⟨hquestion, hquestions⟩ := List.forall_mem_cons.1 hquestions
    change (first.step step).value.1 :: ((first.step step).value.2.run steps).value.1 =
      (second.step step).value.1 :: ((second.step step).value.2.run steps).value.1
    rw [h.step_answer hquestion, ih (h.step_session hquestion) hquestions]

/-! ## The beginning -/

/-- All that a beginning can lead to. -/
theorem value_start (source : Source) (library? : Option Library) (tree : Document.FileTree) :
    (start source library? tree).value =
      match Catalog.ofText source.catalogText with
      | .error error => .error (.catalog error)
      | .ok catalog =>
        if catalog.isEmpty then .error .noSections
        else .ok ⟨⟨catalog, RecordTable.ofText source.recordText, library?.getD source.library⟩,
          source.library, tree, [], []⟩ := by
  rw [start, Traced.value_bind, Registry.value_ofSource, Source.withLibrary]
  dsimp only
  cases Catalog.ofText source.catalogText with
  | error error => rfl
  | ok catalog =>
    dsimp only
    cases catalog.isEmpty with
    | true => rfl
    | false => rfl

/-- A source whose tables can be read is built alike from its directory and from memory: with the
files of the directory kept by their paths, in place of the directory itself, the beginning ends
with the same error, or every sequence of questions is answered alike. It does not matter what
stands where a description is looked up. -/
theorem start_inMemory {root : String} {tree : Document.FileTree} {catalogText recordText : String}
    (hcatalogText : tree.readText Asset.catalogName = .ok catalogText)
    (hrecordText : tree.readText Asset.recordTableName = .ok recordText) :
    ∃ source, Source.ofDirectory root tree = .ok source ∧
      ∀ elsewhere : Document.FileTree,
        Agree (start source none tree).value
          (start (.ofTexts catalogText recordText) (some (.listed tree.documents))
            elsewhere).value := by
  refine ⟨⟨catalogText, recordText, .directory⟩, ?_, fun elsewhere => ?_⟩
  · rw [Source.ofDirectory, Source.table, Source.table, hcatalogText, hrecordText]
    rfl
  · rw [value_start, value_start, Source.ofTexts]
    cases Catalog.ofText catalogText with
    | error error => exact .catalog error
    | ok catalog =>
      dsimp only
      cases catalog.isEmpty with
      | true => exact .noSections
      | false =>
        refine .session fun steps hquestions => ?_
        refine InMemory.run_answers ?_ hquestions
        exact ⟨rfl, rfl, rfl, rfl, rfl⟩

/-- A directory with the two tables, one description, and a file in the place of a directory of
descriptions. -/
def describedUnit : Document.FileTree :=
  .directory [(Asset.catalogName, .file "\x7b\"Unit\":\x7b\x7d\x7d".toUTF8),
    (Asset.recordTableName, .file "".toUTF8), ("documents", .directory [("completion",
      .directory [("Service", .file .empty),
        ("Unit", .directory [("X.html", .file "text".toUTF8)])])])]

/-- No question tells whether the directory is read or kept in memory. -/
theorem start_inMemory_described :
    ∃ source, Source.ofDirectory "root" describedUnit = .ok source ∧
      Agree (start source none describedUnit).value
        (start (.ofTexts "\x7b\"Unit\":\x7b\x7d\x7d" "")
          (some (.listed describedUnit.documents)) .nothing).value := by
  have hcatalogText : describedUnit.readText Asset.catalogName =
      .ok "\x7b\"Unit\":\x7b\x7d\x7d" := rfl
  have hrecordText : describedUnit.readText Asset.recordTableName = .ok "" := rfl
  obtain ⟨source, hsource, hagree⟩ := start_inMemory hcatalogText hrecordText
  exact ⟨source, hsource, hagree _⟩

end Session

end UnitLint
