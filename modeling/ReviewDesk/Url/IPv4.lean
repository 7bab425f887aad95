/-
IPv4 addresses in a URL.

A host whose last part is a number is an address, in whichever of the old notations: up
to four parts, each decimal, octal or hexadecimal, the last of which fills all the
bytes that are left.
-/
import ReviewDesk.Url.Error
import ReviewDesk.Url.Percent
import ReviewDesk.Text.Split
import ReviewDesk.Decimal.Digits

namespace ReviewDesk.Url.IPv4

/-- The digits of a part and their base. -/
def base (part : List Char) : Nat × List Char :=
  match part with
  | '0' :: 'x' :: ds => (16, ds)
  | '0' :: 'X' :: ds => (16, ds)
  | '0' :: d :: ds => (8, d :: ds)
  | ds => (10, ds)

/-- A part as a number of any size; a bare prefix is zero. -/
def number? (part : List Char) : Option Nat :=
  if part.isEmpty then none
  else
    let (b, ds) := base part
    ds.foldlM (fun n d =>
      match hexValue? d with
      | some v => if v < b then some (n * b + v) else none
      | none => none) 0

/-- The parts of a host, less an empty one at the end. -/
def parts (host : List Char) : List (List Char) :=
  let ps := Text.split '.' host
  if ps.getLast? = some [] then ps.dropLast else ps

/-- Whether a host has to be read as an address. -/
def endsInNumber (host : List Char) : Bool :=
  match (parts host).getLast? with
  | none => false
  | some last => (!last.isEmpty && last.all Decimal.isDigit) || (number? last).isSome

/-- The address made of leading bytes and a number for the rest. -/
def assemble (leading : List Nat) (last : Nat) : Option Nat :=
  let rest := Nat.pow 256 (4 - leading.length)
  if leading.any (255 < ·) || rest ≤ last then none
  else some (leading.foldl (fun n b => n * 256 + b) 0 * rest + last)

/-- The address that up to four numbers come to. -/
def parse? (host : List Char) : Option Nat := do
  let ps := parts host
  if 4 < ps.length then none
  else
    let ns ← ps.mapM number?
    let last ← ns.getLast?
    assemble ns.dropLast last

/-- Four decimal numbers. -/
def chars (address : Nat) : List Char :=
  List.intercalate ['.']
    ([0x1000000, 0x10000, 0x100, 1].map fun unit => Decimal.digits (address / unit % 256))

end ReviewDesk.Url.IPv4
