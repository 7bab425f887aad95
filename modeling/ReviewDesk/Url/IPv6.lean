/-
IPv6 addresses in a URL.

Eight pieces of sixteen bits.  Two colons stand once for the zeros that are missing,
at least one piece of them; the last two pieces may be written as an IPv4 address.
Written back, the longest run of two or more zero pieces becomes the two colons.
-/
import ReviewDesk.Url.IPv4
import ReviewDesk.Text.Quoted

namespace ReviewDesk.Url.IPv6

/-- Pieces read so far, and how many of them stand before the gap. -/
structure Progress where
  pieces : List Nat
  gap : Option Nat

/-- A decimal byte without leading zeros. -/
def byte? : List Char → Option Nat
  | [] => none
  | ['0'] => some 0
  | '0' :: _ => none
  | ds =>
    if ds.all Decimal.isDigit && ds.length ≤ 3 && Decimal.value ds ≤ 255 then
      some (Decimal.value ds)
    else none

/-- Four bytes with dots, as two pieces. -/
def dotted? (s : List Char) : Option (List Nat) :=
  match (Text.split '.' s).mapM byte? with
  | some [a, b, c, d] => some [a * 256 + b, c * 256 + d]
  | _ => none

/-- A hexadecimal digit in either case. -/
def isHex (c : Char) : Bool :=
  (hexValue? c).isSome

/-- What a row of hexadecimal digits counts. -/
def hexNumber (ds : List Char) : Nat :=
  ds.foldl (fun n d => n * 16 + (hexValue? d).getD 0) 0

/-- The digits of a piece: up to four. -/
def pieceDigits (s : List Char) : List Char :=
  (s.take 4).takeWhile isHex

/-- Reads pieces from the front. -/
def piecesFrom (p : Progress) : List Char → Option Progress
  | [] => some p
  | c :: r =>
    if p.pieces.length = 8 then none
    else if c = ':' then
      match p.gap with
      | some _ => none
      | none => piecesFrom ⟨p.pieces ++ [0], some (p.pieces.length + 1)⟩ r
    else
      let ds := pieceDigits (c :: r)
      let next : Progress := { p with pieces := p.pieces ++ [hexNumber ds] }
      match _h : (c :: r).drop ds.length with
      | [] => some next
      | '.' :: _ =>
        if ds.isEmpty || 6 < p.pieces.length then none
        else (dotted? (c :: r)).map fun two => { p with pieces := p.pieces ++ two }
      | ':' :: d :: r' => piecesFrom next (d :: r')
      | _ => none
termination_by s => s.length
decreasing_by
  · simp
  · have shorter := congrArg List.length _h
    simp only [List.length_drop, List.length_cons] at shorter ⊢
    omega

/-- The eight pieces, the gap filled with zeros. -/
def fill? (p : Progress) : Option (List Nat) :=
  match p.gap with
  | none => if p.pieces.length = 8 then some p.pieces else none
  | some k =>
    some (p.pieces.take k ++ List.replicate (8 - p.pieces.length) 0 ++ p.pieces.drop k)

/-- The pieces of the text between square brackets. -/
def parse? (s : List Char) : Option (List Nat) :=
  let progress :=
    match s with
    | ':' :: ':' :: r => piecesFrom ⟨[0], some 1⟩ r
    | ':' :: _ => none
    | [] => none
    | [_] => none
    | _ => piecesFrom ⟨[], none⟩ s
  progress.bind fill?

/-- Where the longest run of zero pieces starts, counting from the given number, and how
long it is; of equal ones the first. -/
def longestZeros : Nat → List Nat → Nat × Nat
  | _, [] => (0, 0)
  | i, n :: ns =>
    let here := ((n :: ns).takeWhile (· = 0)).length
    let later := longestZeros (i + 1) ns
    if here = 0 || here < later.2 then later else (i, here)

/-- Pieces with colons between them. -/
def hexPieces (ns : List Nat) : List Char :=
  List.intercalate [':'] (ns.map Text.hex)

/-- An address in writing, the longest run of zeros left out. -/
def chars (pieces : List Nat) : List Char :=
  let (start, size) := longestZeros 0 pieces
  if size < 2 then hexPieces pieces
  else hexPieces (pieces.take start) ++ [':', ':'] ++ hexPieces (pieces.drop (start + size))

end ReviewDesk.Url.IPv6
