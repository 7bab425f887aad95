/-
Doubles in decimal.

The digits are the shortest that read back.  They are written around a point while
the leading digit stands between 10^-5 and 10^15, and with an exponent otherwise; a
whole number keeps `.0`, so that no double looks like an integer.
-/
import ReviewDesk.Decimal.Shortest

namespace ReviewDesk.Decimal

/-- The leading exponents written without an exponent part. -/
def isPositional (e : Int) : Bool :=
  -5 ≤ e && e ≤ 15

/-- Digits `ds` whose first stands for 10^e, around a point. -/
def positional (ds : List Char) (e : Int) : List Char :=
  if e < 0 then
    ['0', '.'] ++ List.replicate ((-e).toNat - 1) '0' ++ ds
  else
    let whole := e.toNat + 1
    if ds.length ≤ whole then
      ds ++ List.replicate (whole - ds.length) '0' ++ ['.', '0']
    else
      ds.take whole ++ '.' :: ds.drop whole

/-- Digits `ds` whose first stands for 10^e, with an exponent part. -/
def scientific (ds : List Char) (e : Int) : List Char :=
  let mantissa := match ds with
    | [] => []
    | [d] => [d]
    | d :: rest => d :: '.' :: rest
  mantissa ++ ['e', if e < 0 then '-' else '+'] ++ digits e.natAbs

/-- The text of a positive finite double. -/
def ofPositive (b : Binary) : List Char :=
  let s := b.shortest
  let all := digits s.k
  let e := s.g + all.length - 1
  let ds := (all.reverse.dropWhile (· = '0')).reverse
  if isPositional e then positional ds e else scientific ds e

/-- The text of a double; the sign of zero is kept. -/
def ofFloat (x : Float) : String :=
  if x.isNaN then "NaN"
  else
    let bits := x.toBits
    let magnitude := bits &&& 0x7FFFFFFFFFFFFFFF
    let sign := if bits = magnitude then [] else ['-']
    let rest :=
      if x.isInf then ['i', 'n', 'f']
      else if magnitude = 0 then ['0', '.', '0']
      else ofPositive (Binary.ofBits magnitude)
    String.ofList (sign ++ rest)

end ReviewDesk.Decimal
