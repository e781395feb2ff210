import UnitLint.Asset.Blurbs
import UnitLint.Asset.Tables
import UnitLint.Document.Path

/-!
# Built-in files

The built-in tables and descriptions as files. A path is taken by its parts: repeated and trailing
slashes and single dots do not count, except that a leading slash or a leading dot says that the
path does not start where the files are. Two dots are a name like any other, which no file has.
-/

namespace UnitLint.Asset

/-- The built-in files with the parts of their paths. -/
def files : List (List String × String) :=
  ([catalogName], catalogText) :: ([recordTableName], recordTableText) ::
    blurbs.map fun ((sectionName, key), text) =>
      (Document.parts (Document.blurbPath sectionName key), text)

/-- The parts of a path that count. None if it does not start where the files are. -/
def partsBelow? (path : String) : Option (List String) :=
  match Document.parts path with
  | [] => some []
  | first :: rest =>
    if first = "." then none
    else if first = "" ∧ rest ≠ [] then none
    else some ((first :: rest).filter (!Document.isIdle ·))

/-- The built-in file at a path. -/
def file? (path : String) : Option String :=
  (partsBelow? path).bind fun parts => files.lookup parts

end UnitLint.Asset
