import UnitLint.Host.Ipv4
import UnitLint.Host.Ipv6
import UnitLint.Idna.Domain

/-!
# Hosts of addresses

The host of an address is an IP address of version 6 in brackets, or a name. For addresses whose
hosts are domain names the name is decoded, read as a domain, and taken as an IP address of
version 4 if its last label is a number. For other addresses a name is any text without the
characters that would end it.
-/

namespace UnitLint.Host

/-- The text between brackets, for a host that starts with one. The inner option is none when the
closing bracket is missing. -/
def bracketed? (host : List Char) : Option (Option (List Char)) :=
  match host with
  | '[' :: rest => some (if rest.getLast? = some ']' then some rest.dropLast else none)
  | _ => none

/-- The bytes of a text in which `%` and two hexadecimal digits stand for a byte. A percent sign
that no two digits follow stands for itself. -/
def percentDecode : List Char → List UInt8
  | '%' :: high :: low :: rest =>
    match Text.digit? 16 high, Text.digit? 16 low with
    | some h, some l => UInt8.ofNat (h * 16 + l) :: percentDecode rest
    | _, _ => '%'.val.toUInt8 :: percentDecode (high :: low :: rest)
  | c :: rest => String.utf8EncodeChar c ++ percentDecode rest
  | [] => []
termination_by cs => cs.length

/-- Whether a host can be that of an address with domain names. -/
def isDomainHost (host : List Char) : Bool :=
  match bracketed? host with
  | some inside? => inside?.any Ipv6.isAddress
  | none =>
    match Idna.readDomain? (percentDecode host) with
    | none => false
    | some labels =>
      labels ≠ [[]] && (!Ipv4.endsInNumber labels || (Ipv4.address? labels).isSome)

/-- Whether a character cannot be part of a host that is no domain name. -/
def endsOpaqueHost (c : Char) : Bool :=
  c == '\x00' || "\t\n\r #/:<>?@[\\]^|".toList.contains c

/-- Whether a host can be that of an address without domain names. It may be empty. -/
def isOpaqueHost (host : List Char) : Bool :=
  match bracketed? host with
  | some inside? => inside?.any Ipv6.isAddress
  | none => !host.any endsOpaqueHost

end UnitLint.Host
