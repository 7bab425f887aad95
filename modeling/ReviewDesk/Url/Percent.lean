/-
Percent encoding.

Characters outside ASCII and those of a set are written as the bytes of their UTF-8,
each as a percent sign and two digits.  Which ASCII characters are in the set depends
on the part of the URL: what ends or divides a part may not stand in it.
-/
import ReviewDesk.Text.Utf8

namespace ReviewDesk.Url

/-- A set of characters that must not be written as they are. -/
abbrev EncodeSet := Char → Bool

/-- Controls and everything outside ASCII. -/
def controlSet : EncodeSet := fun c =>
  c.toNat < 0x20 || 0x7E < c.toNat

/-- What may not stand in the path of a URL that is read. -/
def pathSet : EncodeSet := fun c =>
  controlSet c || c == ' ' || c == '"' || c == '<' || c == '>' || c == '\x60'
    || c == '#' || c == '?' || c == '\x7b' || c == '\x7d'

/-- What may not stand in one segment that is appended to a path. -/
def segmentSet : EncodeSet := fun c =>
  pathSet c || c == '/' || c == '%' || c == '\\'

/-- What may not stand in a user name or password. -/
def userinfoSet : EncodeSet := fun c =>
  pathSet c || c == '/' || c == ':' || c == ';' || c == '=' || c == '@' || c == '['
    || c == '\\' || c == ']' || c == '^' || c == '|'

/-- Upper-case hexadecimal digit. -/
def hexDigit (n : Nat) : Char :=
  if n < 10 then Char.ofNat (0x30 + n) else Char.ofNat (0x37 + n)

/-- A percent sign and two digits. -/
def encodeByte (b : UInt8) : List Char :=
  ['%', hexDigit (b.toNat / 16), hexDigit (b.toNat % 16)]

/-- A character as it is, or the bytes of its UTF-8. -/
def encodeChar (set : EncodeSet) (c : Char) : List Char :=
  if set c then (String.utf8EncodeChar c).flatMap encodeByte else [c]

/-- A text with the characters of a set encoded. -/
def percentEncode (set : EncodeSet) (s : List Char) : List Char :=
  s.flatMap (encodeChar set)

/-- What a hexadecimal digit counts, in either case. -/
def hexValue? (c : Char) : Option Nat :=
  let n := c.toNat
  if 0x30 ≤ n ∧ n ≤ 0x39 then some (n - 0x30)
  else if 0x41 ≤ n ∧ n ≤ 0x46 then some (n - 0x37)
  else if 0x61 ≤ n ∧ n ≤ 0x66 then some (n - 0x57)
  else none

/-- The bytes that a percent-encoded text stands for; a percent sign that is not
followed by two digits stands for itself. -/
def percentDecode : List Char → Bytes
  | [] => []
  | '%' :: a :: b :: r =>
    match hexValue? a, hexValue? b with
    | some m, some n => UInt8.ofNat (16 * m + n) :: percentDecode r
    | _, _ => '%'.toUInt8 :: percentDecode (a :: b :: r)
  | c :: r => String.utf8EncodeChar c ++ percentDecode r

end ReviewDesk.Url
