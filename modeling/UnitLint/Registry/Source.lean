import UnitLint.Catalog.Basic
import UnitLint.Document.FileTree

/-!
# Sources

What a registry is built from: the text of a catalog, the text of a record table, and where the
descriptions of settings are kept. Tables are read once; descriptions are looked up when they are
asked for.
-/

namespace UnitLint

/-- Why a registry cannot be built. -/
inductive LoadError where
  /-- The text of the catalog is malformed. -/
  | catalog (error : Json.Error)
  /-- The catalog is empty. -/
  | noSections
  /-- A table below a directory cannot be read. -/
  | unreadable (root name : String) (fault : Document.ReadFault)
  /-- A built-in table is missing. -/
  | missingAsset (name : String)
  deriving DecidableEq, Repr

/-- The wording of an error. -/
def LoadError.message : LoadError → String
  | catalog error => "failed to parse section keyword table: " ++ error.message
  | noSections => "section keyword table defines no sections"
  | unreadable root name fault =>
    "I/O error reading " ++ root ++ "/" ++ name ++ ": " ++ fault.message
  | missingAsset name => "missing semantic data asset: " ++ name

/-- Where documents are kept. -/
inductive Library where
  | empty
  | builtIn
  /-- Below a directory. -/
  | directory
  /-- Together with the faults of reading them. -/
  | listed (documents : List (String × Except Document.ReadFault ByteArray))

/-- The answers of a library while a directory has the given content. -/
def Library.store (library : Library) (tree : Document.FileTree) : Document.Store :=
  match library with
  | empty => .empty
  | builtIn => .builtIn
  | directory => tree.store
  | listed documents => .ofList documents

/-- What a registry is built from. -/
structure Source where
  catalogText : String
  recordText : String
  library : Library

namespace Source

/-- Tables given as texts, without descriptions. -/
def ofTexts (catalogText recordText : String) : Source :=
  ⟨catalogText, recordText, .empty⟩

/-- A built-in file. -/
def asset (name : String) : Except LoadError String :=
  match Asset.file? name with
  | some text => .ok text
  | none => .error (.missingAsset name)

/-- The built-in tables and descriptions. -/
def builtIn : Except LoadError Source := do
  let catalogText ← asset Asset.catalogName
  let recordText ← asset Asset.recordTableName
  return ⟨catalogText, recordText, .builtIn⟩

/-- A table below a directory. -/
def table (root : String) (tree : Document.FileTree) (name : String) : Except LoadError String :=
  (tree.readText name).mapError (.unreadable root name)

/-- The tables and descriptions below a directory, of which `root` is the path. -/
def ofDirectory (root : String) (tree : Document.FileTree) : Except LoadError Source := do
  let catalogText ← table root tree Asset.catalogName
  let recordText ← table root tree Asset.recordTableName
  return ⟨catalogText, recordText, .directory⟩

/-- The same tables with the descriptions of another library. -/
def withLibrary (source : Source) (library : Library) : Source :=
  { source with library := library }

end Source

end UnitLint
