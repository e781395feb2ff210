import UnitLint.Setting
import UnitLint.Text.Decode
import UnitLint.Traced

/-!
# Descriptions of settings

A store is asked for the description of a setting only if section and key have plain names, so that
no name leads out of the directory of descriptions. A description that cannot be read, or is no
text, is reported and then treated like one that is missing.
-/

namespace UnitLint.Document

/-- Whether a name consists of letters and digits of ASCII, hyphens and underscores. -/
def isPlainName (name : String) : Bool :=
  name ≠ "" && name.toList.all fun c => c.isAlphanum || c == '-' || c == '_'

/-- Whether both names of a setting are plain. -/
def isPlain (setting : Setting) : Bool :=
  isPlainName setting.sectionName && isPlainName setting.key

/-- The text of a description that a store has answered with. -/
def blurbOf? (path : String) :
    Except ReadFault (Option ByteArray) → Traced (Option String)
  | .error fault => do
    Traced.report (.blurbUnreadable path fault)
    pure none
  | .ok none => pure none
  | .ok (some bytes) =>
    match Text.decode bytes with
    | .ok text => pure (some text)
    | .error defect => do
      Traced.report (.blurbNotUtf8 path defect)
      pure none

/-- The description of a setting. -/
def blurb? (store : Store) (setting : Setting) : Traced (Option String) :=
  if isPlain setting then do
    let path := blurbPath setting.sectionName setting.key
    let answer ← Traced.ask store path
    blurbOf? path answer
  else
    pure none

end UnitLint.Document
