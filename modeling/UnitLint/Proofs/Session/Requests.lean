import Mathlib.Data.List.DropRight
import UnitLint.Proofs.Document.Path
import UnitLint.Proofs.Session.Frozen

/-!
# What stores are asked for

The lookup of a description asks the store for one path if both names of the setting are plain, and
for none otherwise. The path goes down from the directory of documents and nowhere else, and no two
settings share it. Nothing else that a registry or an inspection does asks the store for anything,
so what a session remembers are the paths of its lookups, in order.
-/

namespace UnitLint

open Document

theorem RecordTable.requests_read (text : String) : (read text).requests = [] := by
  have hline : ∀ before line, (readLine before line).requests = [] := by
    intro before line
    rw [readLine]
    split <;> rfl
  rw [read, Traced.requests_bind, Traced.requests_foldlM hline]
  rfl

namespace Document

variable {store store' : Store} {setting first second : Setting} {path : String}

theorem mem_requests_blurb?_iff :
    path ∈ (blurb? store setting).requests ↔
      isPlain setting ∧ path = blurbPath setting.sectionName setting.key := by
  rw [requests_blurb?, Step.paths]
  split
  · next hplain => simp [hplain]
  · next hplain => simp [hplain]

theorem length_requests_blurb?_le (store : Store) (setting : Setting) :
    (blurb? store setting).requests.length ≤ 1 := by
  rw [requests_blurb?, Step.paths]
  split <;> simp

/-- The path goes down four times. -/
theorem parts_of_mem_requests (hpath : path ∈ (blurb? store setting).requests) :
    (parts path).length = 4 ∧ ∀ part ∈ parts path, part ≠ "" ∧ part ≠ "." ∧ part ≠ ".." := by
  obtain ⟨hplain, rfl⟩ := mem_requests_blurb?_iff.1 hpath
  rw [parts_blurbPath hplain]
  refine ⟨rfl, fun part hpart => ?_⟩
  obtain ⟨hidle, habove, -⟩ := isName_of_mem_blurbPlace hplain part hpart
  rw [isIdle, Bool.or_eq_false_iff, decide_eq_false_iff_not, decide_eq_false_iff_not] at hidle
  exact ⟨hidle.1, hidle.2, habove⟩

/-- Two settings never ask for the same path. -/
theorem eq_of_mem_requests (hfirst : path ∈ (blurb? store first).requests)
    (hsecond : path ∈ (blurb? store' second).requests) : first = second := by
  obtain ⟨hplain, rfl⟩ := mem_requests_blurb?_iff.1 hfirst
  obtain ⟨hplain', hpath⟩ := mem_requests_blurb?_iff.1 hsecond
  exact blurbPath_injective hplain hplain' hpath

end Document

/-- Building a registry asks for no document. -/
theorem Registry.requests_ofSource (source : Source) : (ofSource source).requests = [] := by
  have hwarn : ∀ records, (warnIfEmpty records).requests = [] := by
    intro records
    rw [warnIfEmpty]
    split <;> rfl
  rw [ofSource]
  split
  · rfl
  · split
    · rfl
    · simp only [Traced.requests_bind, RecordTable.requests_read, hwarn]
      rfl

namespace Step

/-- Whether a step asks which documents have been asked for. -/
def isRecall : Step → Bool
  | requests => true
  | _ => false

/-- The steps behind the last one that asked which documents have been asked for. -/
def sinceRecall (steps : List Step) : List Step :=
  steps.rtakeWhile fun step => !step.isRecall

theorem foldl_recollect (steps : List Step) :
    steps.foldl recollect [] = (sinceRecall steps).flatMap paths := by
  induction steps using List.reverseRecOn with
  | nil => rfl
  | append_singleton steps step ih =>
    rw [List.foldl_append, ih, sinceRecall, sinceRecall, List.rtakeWhile_concat]
    cases step with
    | requests => rfl
    | _ => simp [isRecall, recollect]

end Step

namespace Session

theorem requests_start (source : Source) (library? : Option Library) (tree : FileTree) :
    (start source library? tree).requests = [] := by
  rw [start, Traced.requests_bind, Registry.requests_ofSource]
  split <;> rfl

/-- A run asks for the paths of the descriptions that it looks up, one after the other. -/
theorem requests_run (session : Session) (steps : List Step) :
    (session.run steps).requests = steps.flatMap Step.paths := by
  induction steps generalizing session with
  | nil => rfl
  | cons step steps ih =>
    rw [List.flatMap_cons, ← requests_answer session step, ← ih (session.step step).value.2]
    simp only [run, Traced.requests_bind, Traced.requests_pure, List.append_nil]
    rfl

/-- What a session tells of its requests are the paths asked for since it was asked last. -/
theorem getElem?_run_requests {session : Session} (hproblems : session.problems = [])
    (hrequests : session.requests = []) {steps : List Step} {i : Nat}
    (hstep : steps[i]? = some .requests) :
    (session.run steps).value.1[i]? =
      some (.names (if session.registry.library.remembers then
        (Step.sinceRecall (steps.take i)).flatMap Step.paths else [])) := by
  obtain ⟨tree, hrun⟩ := run_behind hproblems hrequests (steps.take i)
  rw [getElem?_run, hstep, Option.map_some, hrun, ← Step.foldl_recollect]
  rfl

/-- The lookup of a description asks a store for at most one path, and for one exactly if both names
are plain. The path has four parts, of which none is empty or stands for another directory than
the one it names, and it tells the setting; a path written for any two names does not. Sessions
begin without a request, ask for the paths of the descriptions that they look up and for nothing
else, and a library that remembers tells them in order. -/
theorem requests_confined :
    (∀ (store : Store) (setting : Setting),
      (blurb? store setting).requests.length ≤ 1 ∧
      ∀ path, path ∈ (blurb? store setting).requests ↔
        (setting.sectionName ≠ "" ∧ ∀ c ∈ setting.sectionName.toList, IsPlainChar c) ∧
        (setting.key ≠ "" ∧ ∀ c ∈ setting.key.toList, IsPlainChar c) ∧
        path = "documents/completion/" ++ setting.sectionName ++ "/" ++ setting.key ++ ".html") ∧
    (∀ (store : Store) (setting : Setting), ∀ path ∈ (blurb? store setting).requests,
      (parts path).length = 4 ∧ ∀ part ∈ parts path, part ≠ "" ∧ part ≠ "." ∧ part ≠ "..") ∧
    (∀ (store store' : Store) (first second : Setting), ∀ path ∈ (blurb? store first).requests,
      path ∈ (blurb? store' second).requests → first = second) ∧
    (∃ first second : Setting, first ≠ second ∧
      blurbPath first.sectionName first.key = blurbPath second.sectionName second.key) ∧
    ∀ (source : Source) (library? : Option Library) (tree : FileTree),
      (start source library? tree).requests = [] ∧
      ∀ session, (start source library? tree).value = .ok session → ∀ steps : List Step,
        (session.run steps).requests = steps.flatMap Step.paths ∧
        ∀ i : Nat, steps[i]? = some Step.requests →
          (session.run steps).value.1[i]? =
            some (Answer.names (if session.registry.library.remembers then
              (Step.sinceRecall (steps.take i)).flatMap Step.paths else [])) := by
  refine ⟨?_, fun _ _ _ => parts_of_mem_requests, fun _ _ _ _ _ => eq_of_mem_requests, ?_, ?_⟩
  · intro store setting
    refine ⟨length_requests_blurb?_le store setting, fun path => ?_⟩
    rw [mem_requests_blurb?_iff, isPlain_iff, isPlainName_iff, isPlainName_iff, and_assoc]
    rfl
  · exact ⟨⟨"a/b", "c"⟩, ⟨"a", "b/c"⟩, by decide, by decide⟩
  · intro source library? tree
    refine ⟨requests_start source library? tree, fun session hstart steps => ?_⟩
    obtain ⟨catalog, -, -, rfl⟩ := value_start_eq_ok_iff.1 hstart
    exact ⟨requests_run _ steps, fun i hstep => getElem?_run_requests rfl rfl hstep⟩

/-- Of two lookups, the one with dots and a slash in its key is not among what is remembered. -/
theorem requests_confined_dots :
    ∃ session : Session,
      (start (.ofTexts "\x7b\"Unit\":\x7b\x7d\x7d" "") (some (.listed [])) .nothing).value =
        .ok session ∧
      (session.run [.blurb ⟨"Unit", "../X"⟩, .blurb ⟨"Unit", "X"⟩, .requests]).value.1[2]? =
        some (.names ["documents/completion/Unit/X.html"]) := by
  obtain ⟨catalog, hcatalog, hsections, -⟩ :=
    Registry.ofSource_eq_ok_iff.1 (Registry.value_ofSource_bare "")
  have hstart : (start (.ofTexts "\x7b\"Unit\":\x7b\x7d\x7d" "") (some (.listed []))
      .nothing).value = .ok _ := value_start_eq_ok_iff.2 ⟨catalog, hcatalog, hsections, rfl⟩
  obtain ⟨-, -, -, -, hsessions⟩ := requests_confined
  exact ⟨_, hstart, ((hsessions _ _ _).2 _ hstart _).2 2 rfl⟩

end Session

end UnitLint
