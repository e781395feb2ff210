import UnitLint.Validator.Boolean
import UnitLint.Validator.Documentation
import UnitLint.Validator.Mode
import UnitLint.Validator.Vocabulary

/-!
# Validators

The grammars that the values of settings are held to. Tables refer to a validator by the name of
the function with which the service manager reads the value.
-/

namespace UnitLint

/-- A grammar for the value of a setting. -/
inductive Validator where
  /-- A word for yes or no. -/
  | boolean
  /-- The `Type=` of a service. -/
  | serviceType
  /-- The `Restart=` of a service. -/
  | restartPolicy
  /-- The `KillMode=` of a unit with processes. -/
  | killMode
  /-- An octal file mode. -/
  | modeString
  /-- A list of references to documentation. -/
  | documentation
  /-- Any value at all. -/
  | null
  deriving DecidableEq, Repr

namespace Validator

/-- All validators, in the order in which they are listed. -/
def all : List Validator :=
  [boolean, serviceType, restartPolicy, killMode, modeString, documentation, null]

/-- The name by which tables refer to a validator. -/
def name : Validator → String
  | boolean => "config_parse_bool"
  | serviceType => "config_parse_service_type"
  | restartPolicy => "config_parse_service_restart"
  | killMode => "config_parse_kill_mode"
  | modeString => "config_parse_mode"
  | documentation => "config_parse_documentation"
  | null => "NULL"

/-- The validator of a name. -/
def ofName? (name : String) : Option Validator :=
  all.find? (·.name = name)

/-- Without any indication, every value is accepted. -/
instance : Inhabited Validator := ⟨null⟩

/-- Why a result is an error, if it is one. -/
def rejectionOf? {α : Type} : Except Rejection α → Option Rejection
  | .ok _ => none
  | .error rejection => some rejection

/-- Why a value is not accepted, if it is not. -/
def reject? (validator : Validator) (value : String) : Option Rejection :=
  match validator with
  | boolean => rejectionOf? (parseBoolean value)
  | serviceType => Vocabulary.serviceType.reject? value
  | restartPolicy => Vocabulary.restartPolicy.reject? value
  | killMode => Vocabulary.killMode.reject? value
  | modeString => rejectionOf? (parseMode value)
  | documentation => rejectReferences? value
  | null => none

/-- What is to be said about a value that is not accepted. -/
def diagnose? (validator : Validator) (value : String) : Option String :=
  (validator.reject? value).map Rejection.message

end Validator

end UnitLint
