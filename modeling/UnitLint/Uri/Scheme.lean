/-!
# Schemes

The schemes of the references that documentation may be given by.
-/

namespace UnitLint.Uri

/-- A scheme of a documentation reference. -/
inductive Scheme where
  | http
  | https
  | file
  | info
  | man
  deriving DecidableEq, Repr

namespace Scheme

/-- All schemes, in the order in which messages list them. -/
def all : List Scheme := [http, https, file, info, man]

/-- How the scheme is written, in lower case. -/
def name : Scheme → String
  | http => "http"
  | https => "https"
  | file => "file"
  | info => "info"
  | man => "man"

/-- The scheme of the given name, which must be in lower case. -/
def ofName? (name : String) : Option Scheme :=
  all.find? (·.name = name)

end Scheme

end UnitLint.Uri
