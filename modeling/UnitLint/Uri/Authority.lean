import UnitLint.Host.Basic

/-!
# Authorities

The part of an address between two slashes and the path: user information before the last `@`, a
host, and a port. In addresses whose hosts are domain names a backslash counts as a slash, and the
host must not be empty.
-/

namespace UnitLint.Uri

/-- Whether the hosts of an address are domain names or arbitrary text. -/
inductive HostKind where
  | domain
  | opaqueText
  deriving DecidableEq, Repr

/-- Whether a character ends the authority. -/
def endsAuthority (kind : HostKind) (c : Char) : Bool :=
  c == '/' || c == '?' || c == '#' || (kind == .domain && c == '\\')

/-- Splits a text at its last `@`. -/
def splitUser (cs : List Char) : Option (List Char) × List Char :=
  let backwards := cs.reverse
  match backwards.dropWhile (· ≠ '@') with
  | [] => (none, cs)
  | _ :: user => (some user.reverse, (backwards.takeWhile (· ≠ '@')).reverse)

/-- Splits a host from what follows it, which is empty or starts with the first colon outside
brackets. -/
def splitHost (inBrackets : Bool) : List Char → List Char × List Char
  | [] => ([], [])
  | c :: cs =>
    if c = ':' ∧ ¬ inBrackets then ([], c :: cs)
    else
      let (host, port) := splitHost ((inBrackets || c == '[') && c != ']') cs
      (c :: host, port)

/-- The largest port. -/
def maxPort : Nat := 65535

/-- Whether the text behind the colon of a port is one. A backslash ends it, and it may be empty. -/
def isPort (cs : List Char) : Bool :=
  let digits := cs.takeWhile (· ≠ '\\')
  digits.all Text.isDigit && (Text.numeral? 10 digits).any (· ≤ maxPort)

/-- Whether a text starts with an authority. An empty host goes with neither user information nor a
port, and user information that is empty or a lone colon counts as absent. -/
def startsWithAuthority (kind : HostKind) (cs : List Char) : Bool :=
  let authority := cs.takeWhile (!endsAuthority kind ·)
  let rest := cs.dropWhile (!endsAuthority kind ·)
  let (user?, server) := splitUser authority
  let (host, port) := splitHost false server
  let hasUser := user?.any fun user => user ≠ [] && user ≠ [':']
  let isBareMark := user? = some [] && server = [] && rest ≠ []
  let isHost := match kind with
    | .domain => host ≠ [] && Host.isDomainHost host
    | .opaqueText => Host.isOpaqueHost host && (host ≠ [] || (port = [] && !hasUser))
  !isBareMark && isHost && (port = [] || isPort (port.drop 1))

end UnitLint.Uri
