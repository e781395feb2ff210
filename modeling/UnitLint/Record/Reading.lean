import UnitLint.Record.Table
import UnitLint.Traced

/-!
# Reading a table of records

A table is read line by line. Every line that is no record is reported, and in the end how many
settings have a validator and how many lines were passed over.
-/

namespace UnitLint.RecordTable

/-- Reads a line into a table. Counts the lines passed over. -/
def readLine (before : RecordTable × Nat) (line : String) : Traced (RecordTable × Nat) :=
  match Record.ofLine? line with
  | some record => pure (before.1.insert record, before.2)
  | none => do
    Traced.report (.lineSkipped line)
    pure (before.1, before.2 + 1)

/-- Reads a table. -/
def read (text : String) : Traced RecordTable := do
  let (table, skipped) ← (Text.lines text).foldlM readLine (empty, 0)
  Traced.report (.recordsRead table.size skipped)
  pure table

end UnitLint.RecordTable
