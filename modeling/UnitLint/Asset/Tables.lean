import UnitLint.Asset.Settings
import UnitLint.Catalog.Listing

/-!
# Built-in tables

The two tables in which the built-in settings are given: the catalog of documented keys, and the
input for the generator of the service manager's key lookup, which names the function that reads
each setting and where its value goes.
-/

namespace UnitLint.Asset

/-- The file name of the catalog. -/
def catalogName : String := "sectionToKeywordMap.json"

/-- The file name of the record table. -/
def recordTableName : String := "load-fragment-gperf.gperf"

/-- What the catalog says about the settings of a page. -/
def Page.keywords (page : Page) : List (String × Keyword) :=
  page.entries.map fun entry => (entry.key, ⟨entry.anchor?, some page.manual⟩)

/-- The built-in catalog. -/
def listing : Listing :=
  sections.map fun (name, pages) => (name, pages.flatMap Page.keywords)

/-- The text of the built-in catalog. -/
def catalogText : String := listing.toText

/-- What stands before the records: the surroundings and the settings of the generated code. -/
def preamble : List String := [
  "%\x7b",
  "#if __GNUC__ >= 7",
  "_Pragma(\"GCC diagnostic ignored \\\"-Wimplicit-fallthrough\\\"\")",
  "#endif",
  "#include <stddef.h>",
  "#include \"all-units.h\"",
  "#include \"conf-parser.h\"",
  "#include \"load-fragment.h\"",
  "%\x7d",
  "struct ConfigPerfItem;",
  "%null_strings",
  "%language=ANSI-C",
  "%define slot-name section_and_lvalue",
  "%define hash-function-name load_fragment_gperf_hash",
  "%define lookup-function-name load_fragment_gperf_lookup",
  "%readonly-tables",
  "%omit-struct-type",
  "%struct-type",
  "%includes",
  "%%"]

/-- The width of a column of the record table. -/
def columnWidth : Nat := 41

/-- A text with the comma behind it, filled up to the width of a column. -/
def column (text : String) : String :=
  text ++ "," ++ String.ofList (List.replicate (columnWidth - (text.length + 1)) ' ')

/-- The record of a setting. -/
def Entry.record (entry : Entry) (sectionName : String) : String :=
  column (sectionName ++ "." ++ entry.key) ++
    match entry.function? with
    | none => column "NULL" ++ "0,   0"
    | some function =>
      column ("config_parse_" ++ function) ++ "0,   offsetof(" ++ sectionName ++ ", " ++
        String.ofList (entry.key.toList.map Char.toLower) ++ ")"

/-- The records of a section. -/
def sectionRecords (name : String) (pages : List Page) : List String :=
  (pages.flatMap Page.entries).map (·.record name)

/-- Whether a section matters only when a unit is installed. Such a section comes last. -/
def isForInstallation (name : String) : Bool := name == "Install"

/-- The lines of the built-in record table. -/
def recordLines : List String :=
  let (last, first) := sections.partition fun (name, _) => isForInstallation name
  preamble ++ (first ++ last).flatMap fun (name, pages) => sectionRecords name pages

/-- The text of the built-in record table. -/
def recordTableText : String :=
  String.join (recordLines.map (· ++ "\n"))

end UnitLint.Asset
