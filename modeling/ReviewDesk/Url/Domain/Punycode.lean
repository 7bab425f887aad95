/-
A label outside ASCII, written in ASCII.

The ASCII characters of the label come first; then each other character, in the order
of their code points, as the number of steps that a counter over code points and
positions makes to reach it.  The steps are written in digits whose weights adapt to
how large the last one was.
-/

namespace ReviewDesk.Url.Domain.Punycode

/-- The digit for a number below 36: the letters come first. -/
def digit (d : Nat) : Char :=
  if d < 26 then Char.ofNat (0x61 + d) else Char.ofNat (0x30 + d - 26)

/-- What a digit counts, in either case. -/
def digit? (c : Char) : Option Nat :=
  let n := c.toNat
  if 0x61 ≤ n ∧ n ≤ 0x7A then some (n - 0x61)
  else if 0x41 ≤ n ∧ n ≤ 0x5A then some (n - 0x41)
  else if 0x30 ≤ n ∧ n ≤ 0x39 then some (n - 0x30 + 26)
  else none

/-- The digit at position `k` ends a number if it is below this. -/
def threshold (k bias : Nat) : Nat :=
  if k ≤ bias + 1 then 1 else if bias + 26 ≤ k then 26 else k - bias

theorem threshold_pos (k bias : Nat) : 0 < threshold k bias := by
  unfold threshold; split <;> (try split) <;> omega

theorem threshold_le (k bias : Nat) : threshold k bias ≤ 26 := by
  unfold threshold; split <;> (try split) <;> omega

/-- The bias that a number of about this size calls for. -/
def settle (delta k : Nat) : Nat :=
  if 455 < delta then settle (delta / 35) (k + 36) else k + 36 * delta / (delta + 38)
termination_by delta
decreasing_by omega

/-- The bias after a number of `delta` steps among `size` characters. -/
def adapt (delta size : Nat) (first : Bool) : Nat :=
  let d := if first then delta / 700 else delta / 2
  settle (d + d / size) 0

/-! ### Encoding -/

/-- A number in digits, the lowest first; the last one is below its threshold. -/
def numberDigits (bias k q : Nat) : List Char :=
  let t := threshold k bias
  if q < t then [digit q]
  else digit (t + (q - t) % (36 - t)) :: numberDigits bias (k + 36) ((q - t) / (36 - t))
termination_by q
decreasing_by
  have pos := threshold_pos k bias
  have le := Nat.div_le_self (q - threshold k bias) (36 - threshold k bias)
  omega

/-- How far writing has come. -/
structure Encoder where
  written : List Char
  delta : Nat
  bias : Nat
  /-- Characters of the label that are written. -/
  count : Nat

/-- Passes one character of the label while the counter is at code point `m`. -/
def Encoder.pass (basic m : Nat) (e : Encoder) (c : Char) : Encoder :=
  if c.toNat < m then { e with delta := e.delta + 1 }
  else if c.toNat = m then
    ⟨e.written ++ numberDigits e.bias 36 e.delta, 0,
      adapt e.delta (e.count + 1) (e.count = basic), e.count + 1⟩
  else e

/-- Writes the characters with the given code points, in ascending order; the counter
is at `n`. -/
def Encoder.pending (label : List Char) (basic : Nat) : List Nat → Nat → Encoder → Encoder
  | [], _, e => e
  | m :: ms, n, e =>
    let e := { e with delta := e.delta + (m - n) * (e.count + 1) }
    let e := label.foldl (Encoder.pass basic m) e
    pending label basic ms (m + 1) { e with delta := e.delta + 1 }

/-- Puts a number in its place, unless it is there. -/
def insertSorted (n : Nat) : List Nat → List Nat
  | [] => [n]
  | m :: ms =>
    if n < m then n :: m :: ms else if n = m then m :: ms else m :: insertSorted n ms

/-- A label in ASCII. -/
def encode (label : List Char) : List Char :=
  let basic := label.filter (·.toNat < 0x80)
  let others := (label.filter (0x80 ≤ ·.toNat)).foldl (fun ns c => insertSorted c.toNat ns) []
  let start := if basic.isEmpty then [] else basic ++ ['-']
  (Encoder.pending label basic.length others 0x80 ⟨start, 0, 72, basic.length⟩).written

/-! ### Decoding -/

/-- How far reading has come. -/
structure Decoder where
  label : List Char
  /-- Code point and position of the counter. -/
  n : Nat
  i : Nat
  bias : Nat
  /-- Where the position was before the number being read. -/
  start : Nat
  /-- What the next digit counts. -/
  weight : Nat
  k : Nat

/-- The counter is kept in 32 bits. -/
def counterLimit : Nat := UInt32.size

/-- Puts a character into the label once its number is read; `i` is where the counter
has come to. -/
def Decoder.insert (s : Decoder) (i : Nat) : Option Decoder :=
  let size := s.label.length + 1
  let n := s.n + i / size
  let place := i % size
  if n.isValidChar then
    some {
      label := s.label.take place ++ Char.ofNat n :: s.label.drop place
      n := n
      i := place + 1
      bias := adapt (i - s.start) size (s.start = 0)
      start := place + 1
      weight := 1
      k := 36 }
  else none

/-- One more digit: it goes on with the number, or ends it. -/
def Decoder.step (s : Decoder) (c : Char) : Option Decoder :=
  match digit? c with
  | none => none
  | some d =>
    let i := s.i + d * s.weight
    let t := threshold s.k s.bias
    let weight := s.weight * (36 - t)
    if counterLimit ≤ i then none
    else if d < t then s.insert i
    else if counterLimit ≤ weight then none
    else some { s with i, weight, k := s.k + 36 }

/-- The part before the last hyphen, and the part after it.  A hyphen in front does not
divide. -/
def divide (s : List Char) : List Char × List Char :=
  let back := s.reverse
  let digits := (back.takeWhile (· ≠ '-')).reverse
  let rest := back.dropWhile (· ≠ '-')
  match rest with
  | [] => ([], s)
  | [_] => ([], s)
  | _ :: basic => (basic.reverse, digits)

/-- The label that an encoding stands for; it must not end within a number. -/
def decode? (s : List Char) : Option (List Char) := do
  let (basic, digits) := divide s
  let final ← digits.foldlM Decoder.step ⟨basic, 0x80, 0, 72, 0, 1, 36⟩
  if final.k = 36 then some final.label else none

end ReviewDesk.Url.Domain.Punycode
