/-
Hosts.

Between square brackets stands an IPv6 address.  Anything else is a domain name, unless
it ends in a number: then it has to be an IPv4 address.
-/
import ReviewDesk.Url.IPv6
import ReviewDesk.Url.Domain.Basic

namespace ReviewDesk.Url

/-- Where a server is: a name in ASCII, 32 bits, or eight pieces of 16 bits. -/
inductive Host where
  | domain (name : List Char)
  | ipv4 (address : Nat)
  | ipv6 (pieces : List Nat)
  deriving DecidableEq, Repr

namespace Host

/-- A host that starts with a square bracket. -/
def bracketed (inside : List Char) : Except Error Host :=
  if inside.getLast? = some ']' then
    match IPv6.parse? inside.dropLast with
    | some pieces => .ok (.ipv6 pieces)
    | none => .error .invalidIPv6
  else .error .invalidIPv6

/-- A domain name in ASCII, or the address that it has to be. -/
def named (name : List Char) : Except Error Host :=
  if name.isEmpty then .error .emptyHost
  else if IPv4.endsInNumber name then
    match IPv4.parse? name with
    | some address => .ok (.ipv4 address)
    | none => .error .invalidIPv4
  else .ok (.domain name)

/-- Reads a host, which may be percent-encoded unless it stands between brackets. -/
def parse (s : List Char) : Except Error Host :=
  match s with
  | '[' :: inside => bracketed inside
  | _ =>
    match (Text.ofBytes? (percentDecode s)).bind fun d => Domain.ofChars? d.toList with
    | none => .error .invalidDomain
    | some name => named name

/-- The characters that a host in a scheme without domain names must not have. -/
def isOpaqueForbidden (c : Char) : Bool :=
  c == '\x00' || c == '\t' || c == '\n' || c == '\r' || " #/:<>?@[\\]^|".toList.contains c

/-- Checks the host of a scheme without domain names. -/
def checkOpaque (s : List Char) : Except Error Unit :=
  match s with
  | '[' :: inside => (bracketed inside).map fun _ => ()
  | _ => if s.any isOpaqueForbidden then .error .invalidDomainCharacter else .ok ()

/-- A host in writing. -/
def chars : Host → List Char
  | .domain name => name
  | .ipv4 address => IPv4.chars address
  | .ipv6 pieces => '[' :: IPv6.chars pieces ++ [']']

end Host

end ReviewDesk.Url
