/-
The shortest decimal that reads back as a given double.

A positive double is m·2^q.  The reals that round to it form an interval around it,
reaching half way to either neighbour, ends included when m is even.  Of the decimals
with one significant digit, then two, and so on, only the two next to the value can be
the nearest in that interval; the first digit count at which one of them is inside
gives the answer, and of two the nearer.  Seventeen digits always suffice.

All comparisons are between whole numbers: k·10^g against a·2^p after multiplying both
sides by whatever makes the exponents non-negative.
-/
import ReviewDesk.Decimal.Digits

namespace ReviewDesk.Decimal

/-- A positive double: `m·2^q`.  The neighbour below is only half as far away when `m`
is the least significand of its binade. -/
structure Binary where
  m : Nat
  q : Int
  binadeStart : Bool

/-- The significands of one binade: 52 bits of fraction. -/
def fractions : Nat := 0x10000000000000

/-- Significand and exponent of a positive finite double, from its bits. -/
def Binary.ofBits (bits : UInt64) : Binary :=
  let fraction : Nat := bits.toNat % fractions
  let exponent : Nat := bits.toNat / fractions % 0x800
  if exponent = 0 then ⟨fraction, -1074, false⟩
  else ⟨fractions + fraction, (exponent : Int) - 1075, fraction = 0 && 1 < exponent⟩

/-- `k·10^g` on the common scale of `decimalSide` and `binarySide`. -/
def decimalSide (k : Nat) (g p : Int) : Nat :=
  k * Nat.pow 10 g.toNat * Nat.pow 2 (-p).toNat

/-- `a·2^p` on the common scale of `decimalSide` and `binarySide`. -/
def binarySide (a : Nat) (g p : Int) : Nat :=
  a * Nat.pow 2 p.toNat * Nat.pow 10 (-g).toNat

/-- Whether `k·10^g` rounds to the double. -/
def Binary.holds (b : Binary) (k : Nat) (g : Int) : Bool :=
  let p := b.q - 2
  let x := decimalSide k g p
  let low := binarySide (4 * b.m - (if b.binadeStart then 1 else 2)) g p
  let high := binarySide (4 * b.m + 2) g p
  if b.m % 2 = 0 then low ≤ x && x ≤ high else low < x && x < high

/-- The power of ten of the leading digit: every positive double is at least 10^-324,
so scaling by 10^400 leaves its digits in front of the point. -/
def Binary.leadingExponent (b : Binary) : Int :=
  ((digits (binarySide b.m (-400) b.q / Nat.pow 2 (-b.q).toNat)).length : Int) - 401

/-- A decimal `k·10^g`. -/
structure Scaled where
  k : Nat
  g : Int

/-- The nearest decimal with `n` significant digits that rounds to the double. -/
def Binary.withDigits? (b : Binary) (n : Nat) : Option Scaled :=
  let g := b.leadingExponent - ((n : Int) - 1)
  let p := b.q
  let x := binarySide b.m g p
  let unit := decimalSide 1 g p
  let k := x / unit
  match b.holds k g, b.holds (k + 1) g with
  | true, true =>
    let below := x - k * unit
    let above := (k + 1) * unit - x
    if below < above || (below = above && k % 2 = 0) then some ⟨k, g⟩ else some ⟨k + 1, g⟩
  | true, false => some ⟨k, g⟩
  | false, true => some ⟨k + 1, g⟩
  | false, false => none

/-- The nearest of the shortest decimals that round to the double. -/
def Binary.shortest (b : Binary) : Scaled :=
  ((List.range' 1 17).findSome? b.withDigits?).getD ⟨b.m, 0⟩

end ReviewDesk.Decimal
