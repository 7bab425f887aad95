/-
URLs.

A text is cut into its parts from the left: scheme, user, host, port, path.  Of a
scheme that this program does not speak only the form is checked.  Spaces and controls
around the text, and tabs and line ends inside it, do not count.
-/
import ReviewDesk.Url.Host
import ReviewDesk.Url.Path

namespace ReviewDesk

/-- The schemes that this program speaks. -/
inductive Url.Scheme where
  | http
  | https
  deriving DecidableEq, Repr

/-- A user name and a password, both encoded; either may be empty. -/
structure Url.User where
  name : List Char
  password : List Char
  deriving DecidableEq, Repr

/-- A web address, as much of one as this program uses. -/
structure Url where
  scheme : Url.Scheme
  user : Url.User
  host : Url.Host
  /-- Not given when it is the one of the scheme. -/
  port : Option Nat
  path : List Url.Segment
  deriving DecidableEq, Repr

namespace Url

/-- What a text turned out to be. -/
inductive Parsed where
  /-- A URL this program can use, and whether a query or fragment follows it. -/
  | web (url : Url) (hasSuffix : Bool)
  /-- A URL of another scheme. -/
  | other (scheme : List Char)

/-! ### Writing -/

/-- The scheme as it is written. -/
def Scheme.name : Scheme → List Char
  | .http => "http".toList
  | .https => "https".toList

/-- The port that goes without saying. -/
def Scheme.defaultPort : Scheme → Nat
  | .http => 80
  | .https => 443

/-- Name and password with the at sign; nothing if both are empty. -/
def User.chars (u : User) : List Char :=
  let password := if u.password.isEmpty then [] else ':' :: u.password
  if u.name.isEmpty && u.password.isEmpty then [] else u.name ++ password ++ ['@']

/-- The port with its colon; nothing if there is none. -/
def portChars : Option Nat → List Char
  | none => []
  | some p => ':' :: Decimal.digits p

/-- A URL in writing, without query and fragment. -/
def chars (u : Url) : List Char :=
  u.scheme.name ++ "://".toList ++ u.user.chars ++ u.host.chars ++ portChars u.port
    ++ Path.chars u.path

def toText (u : Url) : String :=
  String.ofList u.chars

/-! ### Reading -/

/-- Controls and the space do not count at either end. -/
def trim (s : List Char) : List Char :=
  let front := s.dropWhile (·.toNat ≤ 0x20)
  (front.reverse.dropWhile (·.toNat ≤ 0x20)).reverse

/-- The scheme, in small letters, and what follows its colon. -/
def scheme? (s : List Char) : Option (List Char × List Char) :=
  match s with
  | [] => none
  | c :: _ =>
    let isPart (d : Char) := d.isAlphanum || d == '+' || d == '-' || d == '.'
    match c.isAlpha, s.takeWhile isPart, s.dropWhile isPart with
    | true, name, ':' :: rest => some (name.map Char.toLower, rest)
    | _, _, _ => none

/-- What ends the part with user, host and port. -/
def endsAuthority (special : Bool) (c : Char) : Bool :=
  c == '/' || c == '?' || c == '#' || (special && c == '\\')

/-- Cuts at the last at sign, if there is one. -/
def splitUser? (authority : List Char) : Option (List Char × List Char) :=
  let back := authority.reverse
  match back.dropWhile (· ≠ '@') with
  | [] => none
  | _ :: user => some (user.reverse, (back.takeWhile (· ≠ '@')).reverse)

/-- User name and password are divided by the first colon. -/
def User.parse (s : List Char) : User where
  name := percentEncode userinfoSet (s.takeWhile (· ≠ ':'))
  password := percentEncode userinfoSet ((s.dropWhile (· ≠ ':')).drop 1)

/-- The host, and what follows it: nothing, or a colon and the port.  A colon between
square brackets belongs to the host. -/
def splitPort (inBrackets : Bool) : List Char → List Char × List Char
  | [] => ([], [])
  | c :: cs =>
    if c = ':' ∧ !inBrackets then ([], c :: cs)
    else
      let inside := if c = '[' then true else if c = ']' then false else inBrackets
      let (host, rest) := splitPort inside cs
      (c :: host, rest)

/-- A port, with its colon, is a number of sixteen bits; the number may be missing. -/
def port? (s : List Char) : Except Error (Option Nat) :=
  let ds := s.drop 1
  if !ds.all Decimal.isDigit then .error .invalidPort
  else if 65535 < Decimal.value ds then .error .invalidPort
  else if ds.isEmpty then .ok none
  else .ok (some (Decimal.value ds))

/-- User, host and port as they are written, the port with its colon. -/
structure Authority where
  user : List Char
  host : List Char
  port : List Char

/-- Cuts the part after the two slashes.  A lone at sign before a path has no host. -/
def Authority.parse (authority rest : List Char) : Except Error Authority :=
  let (user, hostAndPort) := (splitUser? authority).getD ([], authority)
  if authority = ['@'] ∧ rest ≠ [] then .error .emptyHost
  else
    let (host, port) := splitPort false hostAndPort
    .ok ⟨user, host, port⟩

/-- A URL of a scheme with domain names, from after the slashes. -/
def parseWeb (scheme : Scheme) (s : List Char) : Except Error Parsed := do
  let authority := s.takeWhile (!endsAuthority true ·)
  let rest := s.dropWhile (!endsAuthority true ·)
  let a ← Authority.parse authority rest
  if a.host.isEmpty then throw .emptyHost
  let host ← Host.parse a.host
  let port ← port? a.port
  let isSuffix (c : Char) := c == '?' || c == '#'
  pure (.web {
    scheme
    user := .parse a.user
    host
    port := if port = some scheme.defaultPort then none else port
    path := Path.parse (rest.takeWhile (!isSuffix ·)) } (rest.any isSuffix))

/-- Checks a URL of another scheme with domain names, from after the slashes. -/
def checkSpecial (s : List Char) : Except Error Unit := do
  let a ← Authority.parse (s.takeWhile (!endsAuthority true ·)) (s.dropWhile (!endsAuthority true ·))
  if a.host.isEmpty then throw .emptyHost
  let _ ← Host.parse a.host
  let _ ← port? a.port

/-- Checks a URL of a scheme without domain names, from after the two slashes.  A
backslash ends its port. -/
def checkOpaque (s : List Char) : Except Error Unit := do
  let a ← Authority.parse (s.takeWhile (!endsAuthority false ·)) (s.dropWhile (!endsAuthority false ·))
  Host.checkOpaque a.host
  if a.host.isEmpty ∧ (a.port ≠ [] ∨ (User.parse a.user).chars ≠ []) then throw .emptyHost
  let _ ← port? (a.port.takeWhile (· ≠ '\\'))

/-- Checks the host of a file.  A drive letter is no host. -/
def checkFile (s : List Char) : Except Error Unit := do
  let isSlash (c : Char) := c == '/' || c == '\\'
  match s with
  | a :: b :: rest =>
    let host := rest.takeWhile fun c => !(isSlash c || c == '?' || c == '#')
    if isSlash a && isSlash b && !host.isEmpty && !Path.isDrive host then do
      let _ ← Host.parse host
    else pure ()
  | _ => pure ()

/-- What follows the slashes after a scheme with domain names, however many they are. -/
def afterSlashes (s : List Char) : List Char :=
  s.dropWhile fun c => c == '/' || c == '\\'

/-- Reads a URL of any scheme. -/
def parse (s : List Char) : Except Error Parsed := do
  let s := (trim s).filter (!Path.isDropped ·)
  match scheme? s with
  | none => throw .relativeWithoutBase
  | some (scheme, rest) =>
    if scheme = "http".toList then parseWeb .http (afterSlashes rest)
    else if scheme = "https".toList then parseWeb .https (afterSlashes rest)
    else
      if scheme = "ftp".toList ∨ scheme = "ws".toList ∨ scheme = "wss".toList then
        checkSpecial (afterSlashes rest)
      else if scheme = "file".toList then checkFile rest
      else
        match rest with
        | '/' :: '/' :: authority => checkOpaque authority
        | _ => pure ()
      pure (.other scheme)

end Url

end ReviewDesk
