import Std.Data.TreeMap
import UnitLint.Record.Basic
import UnitLint.Text.ByteOrder
import UnitLint.Text.Lines

/-!
# Tables of records

The records of a text, line by line. Of several records for a setting the last one counts, and a
line that is no record is passed over.
-/

namespace UnitLint

/-- The validator names of settings, by section and key. -/
structure RecordTable where
  sections : Std.TreeMap String (Std.TreeMap String String Text.compareBytes) Text.compareBytes
  /-- The number of settings with a validator, counted while records are added. -/
  size : Nat

namespace RecordTable

/-- The table without records. -/
def empty : RecordTable := ⟨∅, 0⟩

/-- The validator names of a section, by key. A section without records has none. -/
def keysIn (table : RecordTable) (sectionName : String) :
    Std.TreeMap String String Text.compareBytes :=
  table.sections.getD sectionName ∅

/-- Adds a record, in place of an earlier one for its setting. Only a record for a new setting
counts. -/
def insert (table : RecordTable) (record : Record) : RecordTable :=
  let keys := table.keysIn record.setting.sectionName
  { sections := table.sections.insert record.setting.sectionName
      (keys.insert record.setting.key record.validator)
    size := if keys.contains record.setting.key then table.size else table.size + 1 }

/-- The table of some records, of which later ones count more. -/
def ofRecords (records : List Record) : RecordTable :=
  records.foldl insert empty

/-- The records of a text, in order. -/
def recordsOf (text : String) : List Record :=
  (Text.lines text).filterMap Record.ofLine?

/-- The lines of a text that are no records, in order. -/
def skippedLines (text : String) : List String :=
  (Text.lines text).filter fun line => (Record.ofLine? line).isNone

/-- Reads a table. -/
def ofText (text : String) : RecordTable :=
  ofRecords (recordsOf text)

/-- The name of the validator of a setting. -/
def get? (table : RecordTable) (setting : Setting) : Option String :=
  table.sections[setting.sectionName]?.bind fun keys => keys[setting.key]?

/-- Whether no setting has a validator. -/
def isEmpty (table : RecordTable) : Bool :=
  table.size == 0

end RecordTable

end UnitLint
