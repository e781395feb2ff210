import UnitLint.Registry.Basic

/-!
# Inspection of values

The values that lines of a unit file assign are held against the validators of their settings. Each
one that is not accepted gives one problem, in the order of the lines, and is reported once.
-/

namespace UnitLint

/-- A range of bytes in a unit file. Nothing keeps the end from lying before the start. -/
structure Span where
  start : Nat
  stop : Nat
  deriving DecidableEq, Repr

/-- A line of a unit file that assigns a value, or merely names a key. -/
structure Property where
  setting : Setting
  value? : Option String
  keySpan : Span
  valueSpan : Span
  deriving DecidableEq, Repr

/-- What is to be said about a place in a unit file. -/
structure Problem where
  span : Span
  setting : Setting
  message : String
  deriving DecidableEq, Repr

namespace Inspection

/-- What is to be said about a value, if it is not accepted. -/
def checkValue (registry : Registry) (setting : Setting) (value : String) : Option String :=
  (registry.validatorFor setting).diagnose? value

/-- The problem with a property. -/
def problem? (registry : Registry) (property : Property) : Option Problem :=
  match property.value? with
  | none => none
  | some value =>
    (checkValue registry property.setting value).map fun message =>
      ⟨property.valueSpan, property.setting, message⟩

/-- Adds the problem with a property, if there is one, to those found before. -/
def inspect (registry : Registry) (problems : List Problem) (property : Property) :
    Traced (List Problem) :=
  match problem? registry property with
  | none => pure problems
  | some problem => do
    Traced.report (.valueRejected problem.setting problem.message)
    return problems ++ [problem]

/-- The problems with some properties. -/
def check (registry : Registry) (properties : List Property) : Traced (List Problem) :=
  properties.foldlM (inspect registry) []

end Inspection

end UnitLint
