import UnitLint.Proofs.Document.Answer
import UnitLint.Proofs.Inspection.Verdict
import UnitLint.Session.Basic

/-!
# Sessions keep their registry

A session reads the tables of its source once. What happens to the directory afterwards is seen by
the lookup of documents alone: every other answer is what a registry gives that is built from the
texts of the two tables as they were in the beginning.

What a session keeps of the steps behind it is told by `Session.behind`, in which the directory has
no part.
-/

namespace UnitLint

/-! ## What steps ask for -/

namespace Step

/-- The property that a step inspects on its own. -/
def property? : Step → Option Property
  | inspect property => some property
  | _ => none

/-- The paths for which a step asks the library of the registry: that of a description, if both
names are plain. -/
def paths : Step → List String
  | blurb setting =>
    if Document.isPlain setting then [Document.blurbPath setting.sectionName setting.key] else []
  | _ => []

/-- The paths asked for since they were last told, behind one more step. -/
def recollect (asked : List String) : Step → List String
  | requests => []
  | step => asked ++ step.paths

end Step

/-- Whether a library gives the same answers whatever the directory holds. -/
def Library.isFixed : Library → Bool
  | directory => false
  | empty | builtIn | listed _ => true

/-- Whether the answer to a step has nothing to do with the directory. Documents of the source are
read from it, and so are descriptions, unless they are looked up in a library that is not below
it. -/
def Step.isSettled (library? : Option Library) : Step → Bool
  | blurb _ => library?.any Library.isFixed
  | readDocument _ => false
  | _ => true

theorem Document.requests_blurb? (store : Document.Store) (setting : Setting) :
    (Document.blurb? store setting).requests = (Step.blurb setting).paths := by
  rw [Step.paths]
  split
  · next hplain => exact (Document.comesOf_blurb? store hplain).requests
  · next hplain => rw [Document.blurb?_of_not_isPlain store hplain]

theorem Inspection.requests_inspect (registry : Registry) (problems : List Problem)
    (property : Property) : (inspect registry problems property).requests = [] := by
  rw [inspect]
  cases problem? registry property <;> rfl

theorem Inspection.requests_check (registry : Registry) (properties : List Property) :
    (check registry properties).requests = [] :=
  Traced.requests_foldlM (requests_inspect registry) [] properties

/-- A source below a directory holds the two tables as they are there. -/
theorem Source.ofDirectory_eq_ok {root : String} {tree : Document.FileTree} {source : Source}
    (h : ofDirectory root tree = .ok source) :
    tree.readText Asset.catalogName = .ok source.catalogText ∧
      tree.readText Asset.recordTableName = .ok source.recordText ∧
      source.library = .directory := by
  rw [ofDirectory_eq] at h
  split at h
  · contradiction
  · contradiction
  · next hcatalog hrecord =>
    cases h
    exact ⟨hcatalog, hrecord, rfl⟩

namespace Session

theorem requests_answer (session : Session) (step : Step) :
    (session.answer step).requests = step.paths := by
  cases step with
  | blurb setting => simp [answer, Registry.blurb?, Document.requests_blurb?]
  | check properties => simp [answer, Step.paths, Inspection.requests_check]
  | inspect property => simp [answer, Step.paths, Inspection.requests_inspect]
  | _ => rfl

/-! ## One step -/

@[simp] theorem remember_registry (session : Session) (paths : List String) :
    (session.remember paths).registry = session.registry := by
  rw [remember]
  split <;> rfl

@[simp] theorem remember_ownLibrary (session : Session) (paths : List String) :
    (session.remember paths).ownLibrary = session.ownLibrary := by
  rw [remember]
  split <;> rfl

@[simp] theorem remember_problems (session : Session) (paths : List String) :
    (session.remember paths).problems = session.problems := by
  rw [remember]
  split <;> rfl

/-- No step changes the registry. -/
theorem step_registry (session : Session) (step : Step) :
    (session.step step).value.2.registry = session.registry := by
  rw [Session.step, remember_registry]
  cases step <;> rfl

theorem step_ownLibrary (session : Session) (step : Step) :
    (session.step step).value.2.ownLibrary = session.ownLibrary := by
  rw [Session.step, remember_ownLibrary]
  cases step <;> rfl

/-- A step adds the problem with the property that it inspects, and no other step adds any. -/
theorem step_problems (session : Session) (step : Step) :
    (session.step step).value.2.problems =
      session.problems ++ (step.property?.bind (Inspection.problem? session.registry)).toList := by
  rw [Session.step, remember_problems]
  cases step with
  | inspect property =>
    have hvalue := Inspection.value_inspect session.registry session.problems property
    simpa [answer, Step.property?] using hvalue
  | _ => exact (List.append_nil _).symm

/-- A session whose library remembers keeps the paths asked for until they are told. -/
theorem step_requests {session : Session} {asked : List String}
    (h : session.requests = if session.registry.library.remembers then asked else [])
    (step : Step) :
    (session.step step).value.2.requests =
      if session.registry.library.remembers then step.recollect asked else [] := by
  rw [Session.step, requests_answer, remember]
  have hregistry : (session.answer step).value.2.registry = session.registry := by
    cases step <;> rfl
  rw [hregistry]
  split
  · next hremembers =>
    rw [if_pos hremembers] at h
    cases step with
    | requests => rfl
    | _ => exact congrArg (· ++ _) h
  · next hremembers =>
    rw [if_neg hremembers] at h
    cases step with
    | requests => rfl
    | _ => exact h

/-! ## All steps -/

/-- The session as it would be behind some steps if there were no directory: its registry is asked
for the problems with all properties inspected, and its library remembers what it has to. -/
def behind (session : Session) (steps : List Step) : Session :=
  { session with
    problems := (Inspection.check session.registry (steps.filterMap Step.property?)).value
    requests := if session.registry.library.remembers then steps.foldl Step.recollect [] else [] }

theorem exists_tree_eq (session : Session) {later : Session}
    (hregistry : later.registry = session.registry)
    (hownLibrary : later.ownLibrary = session.ownLibrary)
    (hproblems : later.problems = session.problems)
    (hrequests : later.requests = session.requests) :
    ∃ tree, later = { session with tree } := by
  obtain ⟨_, _, tree, _, _⟩ := later
  subst hregistry hownLibrary hproblems hrequests
  exact ⟨tree, rfl⟩

/-- A step leads from one session behind some steps to another, but for the directory. -/
theorem step_behind (session : Session) (steps : List Step) (tree : Document.FileTree)
    (step : Step) :
    ∃ tree', (({ session.behind steps with tree } : Session).step step).value.2 =
      { session.behind (steps ++ [step]) with tree := tree' } := by
  refine exists_tree_eq (session.behind (steps ++ [step])) (step_registry _ _)
    (step_ownLibrary _ _) ?_ ?_
  · rw [step_problems]
    simp only [behind, Inspection.value_check, List.filterMap_append]
    cases hproperty : step.property? with
    | none => simp [hproperty]
    | some property =>
      cases hproblem : Inspection.problem? session.registry property <;> simp [hproperty, hproblem]
  · rw [step_requests rfl]
    simp only [behind, List.foldl_append, List.foldl_cons, List.foldl_nil]
    rfl

/-- After the steps behind it a session takes another one. -/
theorem run_concat (session : Session) (steps : List Step) (step : Step) :
    (session.run (steps ++ [step])).value =
      ((session.run steps).value.1 ++ [((session.run steps).value.2.step step).value.1],
        ((session.run steps).value.2.step step).value.2) := by
  induction steps generalizing session with
  | nil => rfl
  | cons first steps ih =>
    simp only [List.cons_append, run, Traced.value_bind, Traced.value_pure, ih]

/-- Every step is answered by the session as the steps before have left it. -/
theorem getElem?_run (session : Session) (steps : List Step) (i : Nat) :
    (session.run steps).value.1[i]? =
      steps[i]?.map fun step => ((session.run (steps.take i)).value.2.step step).value.1 := by
  induction steps generalizing session i with
  | nil => rfl
  | cons first steps ih =>
    cases i with
    | zero => rfl
    | succ i => exact ih (session.step first).value.2 i

/-- Whatever the steps are, the directory has no part in what a session keeps of them. -/
theorem run_behind {session : Session} (hproblems : session.problems = [])
    (hrequests : session.requests = []) (steps : List Step) :
    ∃ tree, (session.run steps).value.2 = { session.behind steps with tree } := by
  induction steps using List.reverseRecOn with
  | nil =>
    refine exists_tree_eq (session.behind []) rfl rfl hproblems ?_
    change session.requests = _
    rw [hrequests, behind]
    split <;> rfl
  | append_singleton steps step ih =>
    obtain ⟨tree, hrun⟩ := ih
    rw [run_concat, hrun]
    exact step_behind session steps tree step

/-! ## Sessions on a directory -/

theorem value_start_eq_ok_iff {source : Source} {library? : Option Library}
    {tree : Document.FileTree} {session : Session} :
    (start source library? tree).value = .ok session ↔
      ∃ catalog, Catalog.ofText source.catalogText = .ok catalog ∧ catalog.isEmpty = false ∧
        session = ⟨⟨catalog, RecordTable.ofText source.recordText,
          library?.getD source.library⟩, source.library, tree, [], []⟩ := by
  rw [start, Traced.value_bind]
  constructor
  · intro h
    split at h
    · contradiction
    · next registry hregistry =>
      obtain ⟨catalog, hcatalog, hsections, rfl⟩ := Registry.ofSource_eq_ok_iff.1 hregistry
      exact ⟨catalog, hcatalog, hsections, (Except.ok.inj h).symm⟩
  · rintro ⟨catalog, hcatalog, hsections, rfl⟩
    have hregistry :
        (Registry.ofSource (source.withLibrary (library?.getD source.library))).value = .ok _ :=
      Registry.ofSource_eq_ok_iff.2 ⟨catalog, hcatalog, hsections, rfl⟩
    rw [hregistry]
    rfl

/-- Where the tables are the same, and so is the library unless it is not asked for, questions that
do not touch the directory are answered alike. -/
theorem answer_congr {catalog : Catalog} {records : RecordTable} {library? : Option Library}
    {library library' ownLibrary ownLibrary' : Library} {tree tree' : Document.FileTree}
    {problems : List Problem} {requests : List String} {step : Step}
    (hsettled : step.isSettled library?) :
    (answer ⟨⟨catalog, records, library?.getD library⟩, ownLibrary, tree, problems, requests⟩
        step).value.1 =
      (answer ⟨⟨catalog, records, library?.getD library'⟩, ownLibrary', tree', problems, requests⟩
        step).value.1 := by
  cases step with
  | blurb setting =>
    obtain _ | library := library?
    · contradiction
    · cases library with
      | directory => contradiction
      | empty | builtIn | listed => rfl
  | readDocument path => contradiction
  | _ => rfl

/-- A session on a directory answers as if the directory did not exist any more. Its registry is the
one that is built from the texts of the two tables as they were in the beginning; whatever is
written or removed afterwards, that registry gives the answer to every question but those for
documents below the directory. The problems with properties inspected one by one add up to those
that the same registry finds in all of them. -/
theorem run_frozen {root : String} {tree : Document.FileTree} {source : Source}
    (hsource : Source.ofDirectory root tree = .ok source) {library? : Option Library}
    {session : Session} (hstart : (start source library? tree).value = .ok session) :
    tree.readText Asset.catalogName = .ok source.catalogText ∧
    tree.readText Asset.recordTableName = .ok source.recordText ∧
    ∃ reference,
      (start (.ofTexts source.catalogText source.recordText) library? .nothing).value =
        .ok reference ∧
      ∀ (steps : List Step) (i : Nat) (step : Step), steps[i]? = some step →
        step.isSettled library? →
          (session.run steps).value.1[i]? =
            some ((reference.behind (steps.take i)).step step).value.1 := by
  obtain ⟨hcatalogText, hrecordText, hlibrary⟩ := Source.ofDirectory_eq_ok hsource
  refine ⟨hcatalogText, hrecordText, ?_⟩
  obtain ⟨catalog, hcatalog, hsections, hsession⟩ := value_start_eq_ok_iff.1 hstart
  refine ⟨_, value_start_eq_ok_iff.2 ⟨catalog, hcatalog, hsections, rfl⟩, ?_⟩
  intro steps i step hstep hsettled
  have hproblems : session.problems = [] := by rw [hsession]
  have hrequests : session.requests = [] := by rw [hsession]
  obtain ⟨tree', hrun⟩ := run_behind hproblems hrequests (steps.take i)
  -- a directory remembers as little as the empty library in its place
  have hremembers :
      (library?.getD source.library).remembers = (library?.getD Library.empty).remembers := by
    rw [hlibrary]
    cases library? <;> rfl
  rw [getElem?_run, hstep, Option.map_some, hrun, hsession]
  refine congrArg some ?_
  change (answer _ step).value.1 = (answer _ step).value.1
  simp only [behind, hremembers]
  exact answer_congr hsettled

/-- A directory with the two tables. -/
def tablesOf (catalogText recordText : String) : Document.FileTree :=
  .directory [(Asset.catalogName, .file catalogText.toUTF8),
    (Asset.recordTableName, .file recordText.toUTF8)]

/-- The catalog is overwritten, and the section that it named is still known. -/
theorem run_frozen_overwritten :
    ∃ session reference : Session,
      (start ⟨"\x7b\"Unit\":\x7b\x7d\x7d", "", .directory⟩ none
        (tablesOf "\x7b\"Unit\":\x7b\x7d\x7d" "")).value = .ok session ∧
      (start (.ofTexts "\x7b\"Unit\":\x7b\x7d\x7d" "") none .nothing).value = .ok reference ∧
      (session.run [.writeFile Asset.catalogName "".toUTF8, .hasSection "Unit"]).value.1[1]? =
        some ((reference.behind [.writeFile Asset.catalogName "".toUTF8]).step
          (.hasSection "Unit")).value.1 := by
  have hsource : Source.ofDirectory "root" (tablesOf "\x7b\"Unit\":\x7b\x7d\x7d" "") =
      .ok ⟨"\x7b\"Unit\":\x7b\x7d\x7d", "", .directory⟩ := rfl
  obtain ⟨catalog, hcatalog, hsections, -⟩ :=
    Registry.ofSource_eq_ok_iff.1 (Registry.value_ofSource_bare "")
  have hstart : (start ⟨"\x7b\"Unit\":\x7b\x7d\x7d", "", .directory⟩ none
      (tablesOf "\x7b\"Unit\":\x7b\x7d\x7d" "")).value = .ok _ :=
    value_start_eq_ok_iff.2 ⟨catalog, hcatalog, hsections, rfl⟩
  obtain ⟨-, -, reference, hreference, hanswers⟩ := run_frozen hsource hstart
  exact ⟨_, reference, hstart, hreference, hanswers _ 1 _ rfl rfl⟩

end Session

end UnitLint
