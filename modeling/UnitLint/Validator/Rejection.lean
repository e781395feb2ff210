import UnitLint.Uri.Scheme

/-!
# Rejections

Why the value of a setting is not accepted, and how that is put into words. A rejection keeps the
offending text itself, so two messages can only be equal where the texts are.
-/

namespace UnitLint

/-- Why a value is not accepted. -/
inductive Rejection where
  /-- The value is none of the boolean words. -/
  | notBoolean (value : String)
  /-- The value is not three or four digits. -/
  | notMode (value : String)
  /-- The value is three or four digits, but not all of them octal. -/
  | notOctal (value : String)
  /-- The value is none of the words of a key; one of them may have been meant. -/
  | notListed (key : String) (words : List String) (value : String) (meant? : Option String)
  /-- Some entries of the list refer to no documentation. -/
  | badReferences (entries : List String)
  deriving DecidableEq, Repr

namespace Rejection

/-- Text between single quotes. Nothing inside is escaped. -/
def inQuotes (text : String) : String := "'" ++ text ++ "'"

theorem inQuotes_injective {a b : String} (h : inQuotes a = inQuotes b) : a = b :=
  (String.append_right_inj _).1 ((String.append_left_inj _).1 h)

/-- What a list of references may hold. -/
def expectedReferences : String :=
  "(expected URIs with scheme " ++ ", ".intercalate (Uri.Scheme.all.map Uri.Scheme.name) ++
    " or man page references such as systemd.unit(5))"

/-- The wording of a rejection. -/
def message : Rejection → String
  | notBoolean value =>
    inQuotes value ++ " is not a valid boolean (expected yes/no, true/false, on/off, 1/0)"
  | notMode value =>
    inQuotes value ++ " is not a valid file mode (expected 3 or 4 octal digits, e.g. 0644)"
  | notOctal value => inQuotes value ++ " is not a valid file mode (octal digits are 0-7)"
  | notListed key words value meant? =>
    inQuotes value ++ " is not a valid value for " ++ key ++ "= (expected one of: " ++
      ", ".intercalate words ++
      match meant? with
      | some meant => "; did you mean " ++ inQuotes meant ++ "?)"
      | none => ")"
  | badReferences [entry] =>
    inQuotes entry ++ " is not a valid documentation reference " ++ expectedReferences
  | badReferences entries =>
    "invalid documentation references " ++ ", ".intercalate (entries.map inQuotes) ++ " " ++
      expectedReferences

end Rejection

end UnitLint
