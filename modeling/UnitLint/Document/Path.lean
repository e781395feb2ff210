/-!
# Paths

A path is a text whose parts are separated by slashes.
-/

namespace UnitLint.Document

/-- The parts of a path. Between two slashes, before a leading and behind a trailing one lies an
empty part. -/
def parts (path : String) : List String :=
  (path.toList.splitOn '/').map String.ofList

/-- Whether a part stands for the directory it is in. -/
def isIdle (part : String) : Bool := part = "" || part = "."

/-- The directory of the descriptions. -/
def directory : String := "documents/completion"

/-- Where the description of a setting is kept. Nothing is checked: other characters than those of
plain names may lead elsewhere. -/
def blurbPath (sectionName key : String) : String :=
  directory ++ "/" ++ sectionName ++ "/" ++ key ++ ".html"

end UnitLint.Document
