/-!
# Settings

What a line of a unit file assigns to: a key inside a section.
-/

namespace UnitLint

/-- A key in a section. -/
structure Setting where
  sectionName : String
  key : String
  deriving DecidableEq, Repr

end UnitLint
