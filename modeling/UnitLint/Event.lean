import UnitLint.Document.Store
import UnitLint.Setting
import UnitLint.Text.Utf8

/-!
# Events

What is reported while tables are read, descriptions are looked up and values are inspected, for
whoever follows the work.
-/

namespace UnitLint

/-- How much an event matters. -/
inductive Level where
  | trace
  | debug
  | warn
  deriving DecidableEq, Repr

/-- Something worth reporting. -/
inductive Event where
  /-- A line of a record table is no record. -/
  | lineSkipped (line : String)
  /-- A record table has been read. -/
  | recordsRead (records skipped : Nat)
  /-- A record table has no records. -/
  | noRecords
  /-- A registry has been built. -/
  | loaded (sections keywords validatedKeys : Nat)
  /-- A description cannot be read. -/
  | blurbUnreadable (path : String) (fault : Document.ReadFault)
  /-- A description is no text. -/
  | blurbNotUtf8 (path : String) (defect : Text.Utf8.Defect)
  /-- A value is not accepted. -/
  | valueRejected (setting : Setting) (message : String)
  deriving DecidableEq, Repr

/-- What a field of an event holds. -/
inductive FieldValue where
  | text (value : String)
  | count (value : Nat)
  deriving DecidableEq, Repr

namespace Event

/-- How much the event matters. -/
def level : Event → Level
  | lineSkipped _ | recordsRead _ _ => .trace
  | loaded _ _ _ | valueRejected _ _ => .debug
  | noRecords | blurbUnreadable _ _ | blurbNotUtf8 _ _ => .warn

/-- The event in words. -/
def message : Event → String
  | lineSkipped _ => "skipping non-record gperf line"
  | recordsRead _ _ => "parsed gperf validator table"
  | noRecords => "validator table has no records; every value will be accepted"
  | loaded _ _ _ => "loaded unit file semantic data"
  | blurbUnreadable _ _ => "could not read documentation"
  | blurbNotUtf8 _ _ => "documentation is not valid UTF-8"
  | valueRejected _ _ => "invalid value"

/-- The particulars of the event. -/
def particulars : Event → List (String × FieldValue)
  | lineSkipped line => [("line", .text line)]
  | recordsRead records skipped => [("records", .count records), ("skipped", .count skipped)]
  | noRecords => []
  | loaded sections keywords validatedKeys =>
    [("sections", .count sections), ("keywords", .count keywords),
      ("validated_keys", .count validatedKeys)]
  | blurbUnreadable path fault => [("path", .text path), ("error", .text fault.message)]
  | blurbNotUtf8 path defect => [("path", .text path), ("error", .text defect.message)]
  | valueRejected setting message =>
    [("section", .text setting.sectionName), ("key", .text setting.key),
      ("message", .text message)]

/-- The fields of the event, the message first. -/
def fields (event : Event) : List (String × FieldValue) :=
  ("message", .text event.message) :: event.particulars

end Event

end UnitLint
