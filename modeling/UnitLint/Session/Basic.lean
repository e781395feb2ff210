import UnitLint.Session.Step

/-!
# Sessions

A session asks one registry one thing after the other, while the directory it may have come from
changes. The registry itself never changes. Problems found by single inspections add up, and a
library of listed documents remembers what it has been asked for.
-/

namespace UnitLint

/-- A registry in use. -/
structure Session where
  registry : Registry
  /-- Where the source of the registry keeps its documents. -/
  ownLibrary : Library
  /-- The directory as it is now. -/
  tree : Document.FileTree
  /-- The problems with the properties inspected one by one. -/
  problems : List Problem
  /-- The documents asked for since they were last told. -/
  requests : List String

/-- Whether a library remembers what it is asked for. -/
def Library.remembers : Library → Bool
  | listed _ => true
  | empty | builtIn | directory => false

namespace Session

/-- Begins a session with the registry of a source, which may look up descriptions elsewhere. -/
def start (source : Source) (library? : Option Library) (tree : Document.FileTree) :
    Traced (Except LoadError Session) := do
  match ← Registry.ofSource (source.withLibrary (library?.getD source.library)) with
  | .error error => return .error error
  | .ok registry => return .ok ⟨registry, source.library, tree, [], []⟩

/-- The answer to a step and the session behind it, but for what its library remembers. -/
def answer (session : Session) : Step → Traced (Answer × Session)
  | .sectionNames => return (.names session.registry.catalog.sectionNames, session)
  | .hasSection sectionName =>
    return (.truth (session.registry.catalog.hasSection sectionName), session)
  | .keysIn sectionName => return (.names (session.registry.catalog.keysIn sectionName), session)
  | .hasKeyword setting => return (.truth (session.registry.catalog.hasKeyword setting), session)
  | .keyword setting => return (.keyword (session.registry.catalog.keyword? setting), session)
  | .anchor setting => return (.text (session.registry.catalog.anchor? setting), session)
  | .manual setting => return (.text (session.registry.catalog.manual? setting), session)
  | .referenceUrl sectionName => return (.text (sectionReferenceUrl? sectionName), session)
  | .description sectionName => return (.text (sectionDescription? sectionName), session)
  | .blurb setting => do
    let blurb? ← session.registry.blurb? session.tree setting
    return (.text blurb?, session)
  | .validatorName setting => return (.text (session.registry.validatorName? setting), session)
  | .validatorFor setting => return (.validator (session.registry.validatorFor setting), session)
  | .checkValue setting value =>
    return (.text (Inspection.checkValue session.registry setting value), session)
  | .check properties => do
    let problems ← Inspection.check session.registry properties
    return (.problems problems, session)
  | .inspect property => do
    let problems ← Inspection.inspect session.registry session.problems property
    return (.problems problems, { session with problems })
  | .readDocument path =>
    return (.document (session.ownLibrary.store session.tree path), session)
  | .requests => return (.names session.requests, { session with requests := [] })
  | .writeFile path bytes =>
    return (.done, { session with tree := session.tree.write path bytes })
  | .makeDirectory path =>
    return (.done, { session with tree := session.tree.makeDirectory path })
  | .removeFile path => return (.done, { session with tree := session.tree.remove path })

/-- The session after its library has been asked for some paths. -/
def remember (session : Session) (paths : List String) : Session :=
  if session.registry.library.remembers then
    { session with requests := session.requests ++ paths }
  else session

/-- Takes a step. -/
def step (session : Session) (step : Step) : Traced (Answer × Session) :=
  let answered := session.answer step
  ⟨(answered.value.1, answered.value.2.remember answered.requests), answered.events,
    answered.requests⟩

/-- Takes steps one after the other. -/
def run (session : Session) : List Step → Traced (List Answer × Session)
  | [] => pure ([], session)
  | first :: rest => do
    let (answer, session) ← session.step first
    let (answers, session) ← session.run rest
    return (answer :: answers, session)

end Session

end UnitLint
