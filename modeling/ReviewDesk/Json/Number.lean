/-
Numbers.

A number literal is first read as what is written: a sign, the digits before the
point, those after it and those of the exponent.  Its value is a second step, so that
a literal nobody needs is checked for its form alone.

A literal without point or exponent is an integer as long as it fits 64 bits, unsigned
or, with a sign, signed; `-0` and everything longer is a double.  A double keeps as
many leading digits as fit 64 bits and scales that significand by a power of ten.
-/
import ReviewDesk.Json.Token

namespace ReviewDesk.Json

/-- A number by its value. -/
inductive Number where
  | int (n : Int)
  | double (x : Float)

/-- The exponent as written, without its letter. -/
structure Exponent where
  negative : Bool
  digits : Bytes

/-- A number as written.  An empty fraction means that there is no point. -/
structure Literal where
  negative : Bool
  whole : Bytes
  fraction : Bytes
  exponent : Option Exponent

def isDigit (b : UInt8) : Bool :=
  ascii '0' ≤ b && b ≤ ascii '9'

/-- What a digit counts. -/
def digitValue (b : UInt8) : Nat :=
  b.toNat - 0x30

/-! ### The form of a literal -/

namespace Reader

/-- Reads a byte of one class, if one comes next. -/
def accept (p : UInt8 → Bool) : Reader (Option UInt8) := do
  match ← peek with
  | some b => if p b then do skip; pure (some b) else pure none
  | none => pure none

/-- The digits before the point: no zero in front of others.  A number that breaks off
at the end of the input is unfinished or invalid, for which the caller has a word. -/
def wholeDigits (atEnd : Fault) : Reader Bytes := do
  let d ← next atEnd
  if d == ascii '0' then
    match ← peek with
    | some b => if isDigit b then failAfterNext .invalidNumber else pure [d]
    | none => pure [d]
  else if isDigit d then do
    let ds ← Reader.takeWhile isDigit
    pure (d :: ds)
  else fail .invalidNumber

/-- At least one digit. -/
def someDigits (atEnd : Fault) : Reader Bytes := do
  let d ← next atEnd
  if isDigit d then do
    let ds ← Reader.takeWhile isDigit
    pure (d :: ds)
  else fail .invalidNumber

/-- A point and the digits behind it; none if there is no point. -/
def fractionDigits (atEnd : Fault) : Reader Bytes := do
  match ← accept (· == ascii '.') with
  | some _ => someDigits atEnd
  | none => pure []

/-- The exponent, if there is one. -/
def exponentPart (atEnd : Fault) : Reader (Option Exponent) := do
  match ← accept (fun b => b == ascii 'e' || b == ascii 'E') with
  | some _ => do
    let sign ← accept (fun b => b == ascii '+' || b == ascii '-')
    let ds ← someDigits atEnd
    pure (some ⟨sign == some (ascii '-'), ds⟩)
  | none => pure none

/-- A number literal, as far as it reaches. -/
def literal (atEnd : Fault) : Reader Literal := do
  let sign ← accept (· == ascii '-')
  let whole ← wholeDigits atEnd
  let fraction ← fractionDigits atEnd
  let exponent ← exponentPart atEnd
  pure ⟨sign.isSome, whole, fraction, exponent⟩

theorem strict_literal (atEnd : Fault) : (literal atEnd).Strict :=
  strict_bind _ fun _ => ((strict_next atEnd).bind _).bind _

end Reader

/-! ### The value of a literal -/

/-- Appends decimal digits to a significand while it fits into 64 bits.  Answers the
significand and the digits that were left over. -/
def absorb (significand : Nat) : Bytes → Nat × Bytes
  | [] => (significand, [])
  | d :: ds =>
    let longer := significand * 10 + digitValue d
    if longer < UInt64.size then absorb longer ds else (significand, d :: ds)

/-- What a row of digits counts. -/
def digitsValue (ds : Bytes) : Nat :=
  ds.foldl (fun n d => n * 10 + digitValue d) 0

/-- The power of ten. -/
def Exponent.value (e : Exponent) : Int :=
  if e.negative then -(digitsValue e.digits : Int) else digitsValue e.digits

/-- The double nearest to a power of ten. -/
def powerOfTen (e : Nat) : Float :=
  Float.ofScientific 1 false e

/-- `x / 10^e`.  No double is as large as 10^309, so a larger power is divided by in
steps, which ends early once nothing is left. -/
def scaleDown (x : Float) (e : Nat) : Float :=
  if e ≤ 308 then x / powerOfTen e
  else if x == 0.0 then x
  else scaleDown (x / powerOfTen 308) (e - 308)
termination_by e

/-- `x · 10^e`, which may be too large for a double. -/
def scaleUp (x : Float) (e : Nat) : Except Fault Float :=
  if e ≤ 308 then
    let y := x * powerOfTen e
    if y.isInf then .error .numberOutOfRange else .ok y
  else if x == 0.0 then .ok x
  else .error .numberOutOfRange

/-- A significand times a power of ten, which may be too large for a double. -/
def scale (significand : Nat) (e : Int) : Except Fault Float :=
  let x := Float.ofNat significand
  match e with
  | .ofNat n => scaleUp x n
  | .negSucc n => .ok (scaleDown x (n + 1))

/-- The sign is put on last, so that zero has one too. -/
def signed (negative : Bool) (x : Float) : Float :=
  if negative then -x else x

/-- An integer literal with a significand that fits. -/
def integer (negative : Bool) (n : Nat) : Number :=
  if !negative then .int n
  else if 0 < n ∧ n ≤ UInt64.size / 2 then .int (-n)
  else .double (-(Float.ofNat n))

/-- The value of a literal: an integer if it fits, or else a double. -/
def Literal.value (l : Literal) : Except Fault Number :=
  let (head, dropped) := absorb 0 l.whole
  if dropped.isEmpty && l.fraction.isEmpty && l.exponent.isNone then
    .ok (integer l.negative head)
  else
    let (significand, unused) := absorb head l.fraction
    let places := l.fraction.length - unused.length
    let e := (dropped.length : Int) - places + (l.exponent.map Exponent.value).getD 0
    match scale significand e with
    | .ok x => .ok (.double (signed l.negative x))
    | .error f => .error f

/-- A number that is wanted for its value. -/
def Reader.number : Reader Number := do
  let l ← literal (.unfinished .value)
  ofExcept l.value

/-- A number where a double is wanted. -/
def Number.toFloat : Number → Float
  | .int (.ofNat n) => Float.ofNat n
  | .int (.negSucc n) => -(Float.ofNat (n + 1))
  | .double x => x

end ReviewDesk.Json
