import UnitLint.Inspection

/-!
# Steps of a session

What can be asked of a registry while it is in use, what can happen to the directory it may have
come from, and the answers.
-/

namespace UnitLint

/-- A step of a session. -/
inductive Step where
  | sectionNames
  | hasSection (sectionName : String)
  | keysIn (sectionName : String)
  | hasKeyword (setting : Setting)
  | keyword (setting : Setting)
  | anchor (setting : Setting)
  | manual (setting : Setting)
  | referenceUrl (sectionName : String)
  | description (sectionName : String)
  | blurb (setting : Setting)
  | validatorName (setting : Setting)
  | validatorFor (setting : Setting)
  | checkValue (setting : Setting) (value : String)
  /-- Inspects properties, apart from those inspected before. -/
  | check (properties : List Property)
  /-- Inspects one more property. -/
  | inspect (property : Property)
  /-- Reads a document of the source. -/
  | readDocument (path : String)
  /-- Asks which documents have been asked for since this was asked last. -/
  | requests
  | writeFile (path : String) (bytes : ByteArray)
  | makeDirectory (path : String)
  | removeFile (path : String)

/-- The answer to a step. -/
inductive Answer where
  | names (names : List String)
  | truth (value : Bool)
  | keyword (keyword? : Option Keyword)
  | text (text? : Option String)
  | validator (validator : Validator)
  | problems (problems : List Problem)
  | document (result : Except Document.ReadFault (Option ByteArray))
  | done

end UnitLint
