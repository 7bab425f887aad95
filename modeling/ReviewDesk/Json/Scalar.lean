/-
Values of a wanted kind.

Each reader here takes one kind of value.  Met with another, it says what it found: a
number or a text is read in full for that, so it may turn out to be malformed first;
of a list or an object only the bracket is looked at.
-/
import ReviewDesk.Json.Brackets

namespace ReviewDesk.Json.Reader

variable {α : Type}

/-- A value that is not of the wanted kind. -/
def mismatch (expected : String) : Reader α := do
  match ← peek with
  | none => fail .expectedValue
  | some b =>
    if b == ascii '-' || isDigit b then do
      match ← number with
      | .int n => fail (.wrongType (.int n) expected)
      | .double x => fail (.wrongType (.double x) expected)
    else do
      skip
      if b == ascii 'n' then do
        word ['u', 'l', 'l']
        fail (.wrongType .null expected)
      else if b == ascii 't' then do
        word ['r', 'u', 'e']
        fail (.wrongType (.bool true) expected)
      else if b == ascii 'f' then do
        word ['a', 'l', 's', 'e']
        fail (.wrongType (.bool false) expected)
      else if b == ascii '"' then do
        let s ← text
        fail (.wrongType (.text s) expected)
      else if b == ascii '[' then fail (.wrongType .list expected)
      else if b == ascii '\x7b' then fail (.wrongType .object expected)
      else fail .expectedValue

/-- A value whose first byte decides how to go on: `read` is given that byte, which
stays unread. -/
def startingWith (read : UInt8 → Reader α) : Reader α := do
  let _ ← blanks
  match ← peek with
  | none => fail (.unfinished .value)
  | some b => read b

/-- A text. -/
def textValue (expected : String) : Reader String :=
  startingWith fun b =>
    if b == ascii '"' then do skip; text else mismatch expected

/-- A list, all its items of one kind. -/
def listValue (item : Reader α) : Reader (List α) :=
  startingWith fun b =>
    if b == ascii '[' then do skip; list item else mismatch "a sequence"

/-- Yes or no. -/
def boolValue : Reader Bool :=
  startingWith fun b =>
    if b == ascii 't' then do
      skip
      word ['r', 'u', 'e']
      pure true
    else if b == ascii 'f' then do
      skip
      word ['a', 'l', 's', 'e']
      pure false
    else mismatch "a boolean"

/-- Null and nothing else. -/
def nullValue (expected : String) : Reader Unit :=
  startingWith fun b =>
    if b == ascii 'n' then do
      skip
      word ['u', 'l', 'l']
    else mismatch expected

/-- A number of either kind. -/
def numberValue (expected : String) : Reader Number :=
  startingWith fun b =>
    if b == ascii '-' || isDigit b then number else mismatch expected

/-- An integer from 0 up to a bound.  A double is never taken for an integer, not even
a whole one. -/
def natUpTo (bound : Nat) (expected : String) : Reader Nat := do
  match ← numberValue expected with
  | .int n =>
    if 0 ≤ n ∧ n ≤ bound then pure n.toNat else fail (.outOfRange n expected)
  | .double x => fail (.wrongType (.double x) expected)

/-- An integer of eight bits. -/
def uint8 : Reader UInt8 := do
  let n ← natUpTo (UInt8.size - 1) "u8"
  pure n.toUInt8

/-- An integer of sixty-four bits. -/
def uint64 : Reader UInt64 := do
  let n ← natUpTo (UInt64.size - 1) "u64"
  pure n.toUInt64

/-- A double; an integer will do. -/
def double : Reader Float := do
  let n ← numberValue "f64"
  pure n.toFloat

/-- Null for nothing, or else a value. -/
def optional (read : Reader α) : Reader (Option α) := do
  let _ ← blanks
  if (← peek) == some (ascii 'n') then do
    skip
    word ['u', 'l', 'l']
    pure none
  else do
    let v ← read
    pure (some v)

end ReviewDesk.Json.Reader
