import UnitLint.Document.Blurb
import UnitLint.Record.Reading
import UnitLint.Registry.Source
import UnitLint.Section
import UnitLint.Validator.Basic

/-!
# Registries

All that is known about settings: which there are, where they are documented, and which validator
their values have. Sections and keys that are not known are no fault; there is just nothing to be
said about them. The two tables are independent of each other, so a setting may have a validator
without being in the catalog.
-/

namespace UnitLint

/-- What is known about settings. -/
structure Registry where
  catalog : Catalog
  records : RecordTable
  library : Library

namespace Registry

/-- Warns of a table without records. -/
def warnIfEmpty (records : RecordTable) : Traced Unit :=
  if records.isEmpty then Traced.report .noRecords else pure ()

/-- Builds a registry. The catalog is read before the record table. -/
def ofSource (source : Source) : Traced (Except LoadError Registry) :=
  match Catalog.ofText source.catalogText with
  | .error error => pure (.error (.catalog error))
  | .ok catalog =>
    if catalog.isEmpty then pure (.error .noSections)
    else do
      let records ← RecordTable.read source.recordText
      warnIfEmpty records
      Traced.report (.loaded catalog.sectionNames.length catalog.keywordCount records.size)
      return .ok ⟨catalog, records, source.library⟩

/-- Builds a registry from a directory, of which `root` is the path. -/
def ofDirectory (root : String) (tree : Document.FileTree) : Traced (Except LoadError Registry) :=
  match Source.ofDirectory root tree with
  | .error error => pure (.error error)
  | .ok source => ofSource source

/-- The name of the validator of a setting. -/
def validatorName? (registry : Registry) (setting : Setting) : Option String :=
  registry.records.get? setting

/-- The validator of a setting. Any value is accepted if there is none, or none of that name. -/
def validatorFor (registry : Registry) (setting : Setting) : Validator :=
  ((registry.validatorName? setting).bind Validator.ofName?).getD default

/-- The description of a setting, while the directory of the source has the given content. -/
def blurb? (registry : Registry) (tree : Document.FileTree) (setting : Setting) :
    Traced (Option String) :=
  Document.blurb? (registry.library.store tree) setting

end Registry

end UnitLint
