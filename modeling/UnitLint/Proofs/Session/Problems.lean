import UnitLint.Proofs.Document.Missing
import UnitLint.Proofs.Inspection.Batches
import UnitLint.Proofs.Registry.Log
import UnitLint.Proofs.Session.Frozen

/-!
# Problems in sessions

What a session answers about properties is what its registry finds in them, whatever else is asked
in between, and each problem is reported once, by the step that finds it. Single values are judged
without a report. Of the lookups only that of a description reports anything, and that is never the
rejection of a value.
-/

namespace UnitLint

/-- Whether an event tells of a value that is not accepted. -/
def Event.isRejection (event : Event) : Bool :=
  event.level = .debug ∧ event.message = "invalid value"

theorem Problem.isRejection_event (problem : Problem) : problem.event.isRejection := by
  rfl

theorem Event.isRejection_of_warn {event : Event} (h : event.level = .warn) :
    event.isRejection = false := by
  rw [isRejection, h]
  rfl

namespace Registry

/-- No value is rejected while a registry is built. -/
theorem isRejection_of_mem_events {source : Source} {event : Event}
    (hevent : event ∈ (ofSource source).events) : event.isRejection = false := by
  cases hvalue : (ofSource source).value with
  | error error =>
    rw [events_ofSource_of_error hvalue] at hevent
    contradiction
  | ok registry =>
    rw [events_ofSource_of_ok hvalue, RecordTable.events_read] at hevent
    simp only [List.mem_append, List.mem_map, List.mem_singleton] at hevent
    rcases hevent with (⟨line, -, rfl⟩ | rfl) | hwarn | rfl
    · rfl
    · rfl
    · split at hwarn
      · obtain rfl := List.mem_singleton.1 hwarn
        rfl
      · contradiction
    · rfl

end Registry

namespace Step

/-- The properties that a step inspects. -/
def inspected : Step → List Property
  | check properties => properties
  | inspect property => [property]
  | _ => []

/-- Whether a step reports nothing, whatever it meets. -/
def isSilent : Step → Bool
  | blurb _ | check _ | inspect _ => false
  | _ => true

end Step

namespace Session

/-! ## One step -/

theorem events_step (session : Session) (step : Step) :
    (session.step step).events = (session.answer step).events := rfl

theorem events_step_of_isSilent (session : Session) {step : Step} (hsilent : step.isSilent) :
    (session.step step).events = [] := by
  rw [events_step]
  cases step with
  | blurb | check | inspect => contradiction
  | _ => rfl

/-- The lookup of a description reports at most that it cannot be had. -/
theorem level_of_mem_events_blurb (session : Session) (setting : Setting) :
    ∀ event ∈ (session.step (.blurb setting)).events, event.level = .warn := by
  intro event hevent
  rw [events_step, answer, Traced.events_bind, Traced.events_pure, List.append_nil] at hevent
  exact Document.level_of_mem_events_blurb? hevent

/-- The rejections that a step reports are those of the problems with what it inspects. -/
theorem rejections_step (session : Session) (step : Step) :
    (session.step step).events.filter Event.isRejection =
      (Inspection.check session.registry step.inspected).value.map Problem.event := by
  have hall : ∀ problems : List Problem,
      (problems.map Problem.event).filter Event.isRejection = problems.map Problem.event := by
    intro problems
    apply List.filter_eq_self.2
    exact List.forall_mem_map.2 fun problem _ => problem.isRejection_event
  cases step with
  | blurb setting =>
    show _ = []
    apply List.filter_eq_nil_iff.2
    intro event hevent
    simp [Event.isRejection_of_warn (level_of_mem_events_blurb session setting event hevent)]
  | check properties =>
    rw [events_step, answer, Traced.events_bind, Traced.events_pure, List.append_nil,
      Inspection.events_check, hall]
    rfl
  | inspect property =>
    rw [events_step, answer, Traced.events_bind, Traced.events_pure, List.append_nil,
      Inspection.events_inspect, hall, Step.inspected, Inspection.value_check]
    cases hproblem : Inspection.problem? session.registry property <;> simp [hproblem]
  | _ => rfl

/-! ## All steps -/

theorem events_run_cons (session : Session) (step : Step) (steps : List Step) :
    (session.run (step :: steps)).events =
      (session.step step).events ++ ((session.step step).value.2.run steps).events := by
  simp only [run, Traced.events_bind, Traced.events_pure, List.append_nil]

/-- The rejections that a session reports are those of the problems that its steps find, step by
step. -/
theorem rejections_run (session : Session) (steps : List Step) :
    (session.run steps).events.filter Event.isRejection =
      steps.flatMap fun step =>
        (Inspection.check session.registry step.inspected).value.map Problem.event := by
  induction steps generalizing session with
  | nil => rfl
  | cons step steps ih =>
    rw [events_run_cons, List.filter_append, rejections_step, ih, step_registry, List.flatMap_cons]

theorem events_start (source : Source) (library? : Option Library) (tree : Document.FileTree) :
    (start source library? tree).events =
      (Registry.ofSource (source.withLibrary (library?.getD source.library))).events := by
  rw [start, Traced.events_bind]
  split <;> exact List.append_nil _

/-- No value is rejected in the beginning. -/
theorem rejections_start (source : Source) (library? : Option Library)
    (tree : Document.FileTree) :
    (start source library? tree).events.filter Event.isRejection = [] := by
  rw [events_start]
  apply List.filter_eq_nil_iff.2
  intro event hevent
  simp [Registry.isRejection_of_mem_events hevent]

theorem run_registry (session : Session) (steps : List Step) :
    (session.run steps).value.2.registry = session.registry := by
  induction steps generalizing session with
  | nil => rfl
  | cons step steps ih =>
    rw [← step_registry session step, ← ih (session.step step).value.2]
    rfl

/-- A single inspection answers with the problems that were found before and its own. -/
theorem getElem?_run_inspect {session : Session} {steps : List Step} {i : Nat}
    {property : Property} (hstep : steps[i]? = some (.inspect property)) :
    (session.run steps).value.1[i]? =
      some (.problems ((session.run (steps.take i)).value.2.problems ++
        (Inspection.check session.registry [property]).value)) := by
  rw [getElem?_run, hstep, Option.map_some]
  show some (Answer.problems (Inspection.inspect _ _ property).value) = _
  rw [run_registry, Inspection.value_inspect, Inspection.value_check]
  cases hproblem : Inspection.problem? session.registry property <;> simp [hproblem]

theorem getElem?_run_check {session : Session} {steps : List Step} {i : Nat}
    {properties : List Property} (hstep : steps[i]? = some (.check properties)) :
    (session.run steps).value.1[i]? =
      some (.problems (Inspection.check session.registry properties).value) := by
  rw [getElem?_run, hstep, Option.map_some, ← run_registry session (steps.take i)]
  rfl

/-- A session with the registry of one section without keys. -/
theorem value_start_bare (recordText : String) :
    (start (.ofTexts "\x7b\"Unit\":\x7b\x7d\x7d" recordText) none .nothing).value =
      .ok ⟨⟨.ofListing [("Unit", [])], RecordTable.ofText recordText, .empty⟩, .empty, .nothing,
        [], []⟩ := by
  obtain ⟨catalog, hcatalog, hsections, hregistry⟩ :=
    Registry.ofSource_eq_ok_iff.1 (Registry.value_ofSource_bare recordText)
  obtain ⟨rfl, -, -⟩ := Registry.mk.inj hregistry
  exact value_start_eq_ok_iff.2 ⟨_, hcatalog, hsections, rfl⟩

/-- It makes no difference whether properties are inspected at once, in batches or one by one: the
problems of two batches are those of one batch after those of the other, and properties inspected
one by one add theirs to the problems found before, which stay as they are. So a session answers to
a single inspection with what it would find in all properties inspected singly so far, in order, and
nothing that is done in between has a part in that. -/
theorem inspections_add_up :
    (∀ (registry : Registry) (first second : List Property),
      (Inspection.check registry (first ++ second)).value =
        (Inspection.check registry first).value ++ (Inspection.check registry second).value) ∧
    (∀ (registry : Registry) (problems : List Problem) (properties : List Property),
      (properties.foldlM (Inspection.inspect registry) problems).value =
        problems ++ (Inspection.check registry properties).value) ∧
    ∀ (source : Source) (library? : Option Library) (tree : Document.FileTree)
      (session : Session), (start source library? tree).value = .ok session →
      ∀ (steps : List Step) (i : Nat) (property : Property), steps[i]? = some (.inspect property) →
        (session.run steps).value.1[i]? =
          some (.problems (Inspection.check session.registry
            ((steps.take (i + 1)).filterMap Step.property?)).value) := by
  have happend : ∀ (registry : Registry) (first second : List Property),
      (Inspection.check registry (first ++ second)).value =
        (Inspection.check registry first).value ++ (Inspection.check registry second).value := by
    intro registry first second
    rw [Inspection.check_append]
    rfl
  refine ⟨happend, ?_, ?_⟩
  · intro registry problems properties
    rw [Inspection.foldlM_inspect]
    rfl
  · intro source library? tree session hstart steps i property hstep
    obtain ⟨catalog, -, -, hsession⟩ := value_start_eq_ok_iff.1 hstart
    have hproblems : session.problems = [] := by rw [hsession]
    have hrequests : session.requests = [] := by rw [hsession]
    obtain ⟨later, hrun⟩ := run_behind hproblems hrequests (steps.take i)
    have hinspected : (steps.take (i + 1)).filterMap Step.property? =
        (steps.take i).filterMap Step.property? ++ [property] := by
      rw [List.take_add_one, hstep, List.filterMap_append]
      rfl
    rw [getElem?_run_inspect hstep, hrun, hinspected, happend]
    rfl

/-- Between two inspections properties are checked and a file is written. -/
theorem inspections_add_up_interleaved :
    ∃ session : Session,
      (start (.ofTexts "\x7b\"Unit\":\x7b\x7d\x7d" "Exec.Mask, config_parse_mode, 0\n") none
        .nothing).value = .ok session ∧
      (session.run [.inspect ⟨⟨"Exec", "Mask"⟩, some "a", ⟨0, 4⟩, ⟨5, 6⟩⟩,
        .check [⟨⟨"Exec", "Mask"⟩, some "b", ⟨7, 11⟩, ⟨12, 13⟩⟩],
        .writeFile Asset.recordTableName .empty,
        .inspect ⟨⟨"Exec", "Mask"⟩, some "c", ⟨14, 18⟩, ⟨19, 20⟩⟩]).value.1[3]? =
          some (.problems [⟨⟨5, 6⟩, ⟨"Exec", "Mask"⟩, (Rejection.notMode "a").message⟩,
            ⟨⟨19, 20⟩, ⟨"Exec", "Mask"⟩, (Rejection.notMode "c").message⟩]) := by
  have hstart := value_start_bare "Exec.Mask, config_parse_mode, 0\n"
  obtain ⟨-, -, hsessions⟩ := inspections_add_up
  refine ⟨_, hstart, (hsessions _ _ _ _ hstart _ 3 _ rfl).trans ?_⟩
  refine congrArg (fun problems => some (Answer.problems problems)) ?_
  decide +kernel

/-- Every problem that is found is reported once, and no other report is made of values. -/
theorem rejections_reported_once :
    (∀ (registry : Registry) (properties : List Property),
      (Inspection.check registry properties).events =
        (Inspection.check registry properties).value.map Problem.event) ∧
    (∀ problem : Problem, problem.event.level = .debug ∧
      problem.event.fields = [("message", .text "invalid value"),
        ("section", .text problem.setting.sectionName), ("key", .text problem.setting.key),
        ("message", .text problem.message)]) ∧
    (∀ (source : Source) (library? : Option Library) (tree : Document.FileTree)
      (session : Session), (start source library? tree).value = .ok session →
      ∀ steps : List Step,
        ((start source library? tree).events ++ (session.run steps).events).filter
            Event.isRejection =
          (steps.flatMap fun step =>
            (Inspection.check session.registry step.inspected).value.map Problem.event) ∧
        (∀ (i : Nat) (properties : List Property), steps[i]? = some (.check properties) →
          (session.run steps).value.1[i]? =
            some (.problems (Inspection.check session.registry properties).value)) ∧
        ∀ (i : Nat) (property : Property), steps[i]? = some (.inspect property) →
          (session.run steps).value.1[i]? =
            some (.problems ((session.run (steps.take i)).value.2.problems ++
              (Inspection.check session.registry [property]).value))) ∧
    (∀ (session : Session) (step : Step), step.isSilent → (session.step step).events = []) ∧
    ∀ (session : Session) (setting : Setting),
      ∀ event ∈ (session.step (.blurb setting)).events, event.level = .warn := by
  refine ⟨Inspection.events_check, fun problem => ⟨rfl, rfl⟩, ?_,
    fun session step => events_step_of_isSilent session, level_of_mem_events_blurb⟩
  intro source library? tree session hstart steps
  refine ⟨?_, fun i properties => getElem?_run_check, fun i property => getElem?_run_inspect⟩
  rw [List.filter_append, rejections_start, rejections_run, List.nil_append]

/-- A value that is judged alone is not reported, and one that is found twice is reported twice. -/
theorem rejections_reported_once_twice :
    ∃ session : Session,
      (start (.ofTexts "\x7b\"Unit\":\x7b\x7d\x7d" "Exec.Mask, config_parse_mode, 0\n") none
        .nothing).value = .ok session ∧
      ((start (.ofTexts "\x7b\"Unit\":\x7b\x7d\x7d" "Exec.Mask, config_parse_mode, 0\n") none
          .nothing).events ++
        (session.run [.checkValue ⟨"Exec", "Mask"⟩ "a",
          .check [⟨⟨"Exec", "Mask"⟩, some "a", ⟨0, 4⟩, ⟨5, 6⟩⟩,
            ⟨⟨"Exec", "Mask"⟩, some "0777", ⟨7, 11⟩, ⟨12, 16⟩⟩],
          .inspect ⟨⟨"Exec", "Mask"⟩, some "a", ⟨0, 4⟩, ⟨5, 6⟩⟩]).events).filter
            Event.isRejection =
        [.valueRejected ⟨"Exec", "Mask"⟩ (Rejection.notMode "a").message,
          .valueRejected ⟨"Exec", "Mask"⟩ (Rejection.notMode "a").message] ∧
      (session.step (.checkValue ⟨"Exec", "Mask"⟩ "a")).events = [] := by
  have hstart := value_start_bare "Exec.Mask, config_parse_mode, 0\n"
  obtain ⟨-, -, hsessions, hsilent, -⟩ := rejections_reported_once
  refine ⟨_, hstart, ((hsessions _ _ _ _ hstart _).1).trans ?_, hsilent _ _ rfl⟩
  decide +kernel

end Session

end UnitLint
