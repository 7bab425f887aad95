/-
Texts and words.

A text between quotation marks is collected as bytes and must be UTF-8 as a whole when
its closing mark is met.  An escape may stand for half of a character outside the
basic plane; then the other half has to follow at once, as an escape too.

A text that nobody will look at is passed over without those two checks: its escapes
must be well-formed, what they stand for does not matter.
-/
import ReviewDesk.Json.Reader

namespace ReviewDesk.Json

/-- The code of an ASCII character. -/
abbrev ascii (c : Char) : UInt8 :=
  c.toUInt8

namespace Reader

/-- The rest of a word whose first letter is already read. -/
def word : List Char → Reader Unit
  | [] => pure ()
  | c :: cs => do
    let b ← next (.unfinished .value)
    if b == ascii c then word cs else fail .expectedIdent

/-- What a hexadecimal digit counts, in either case. -/
def hexDigit? (b : UInt8) : Option Nat :=
  let n := b.toNat
  if 0x30 ≤ n ∧ n ≤ 0x39 then some (n - 0x30)
  else if 0x41 ≤ n ∧ n ≤ 0x46 then some (n - 0x37)
  else if 0x61 ≤ n ∧ n ≤ 0x66 then some (n - 0x57)
  else none

/-- Four hexadecimal digits; fewer than four bytes are an unfinished text, whatever
they are. -/
def hexUnit : Reader Nat where
  run
    | a :: b :: c :: d :: r =>
      match hexDigit? a, hexDigit? b, hexDigit? c, hexDigit? d with
      | some a, some b, some c, some d => .ok (((a * 16 + b) * 16 + c) * 16 + d, r)
      | _, _, _, _ => .error ⟨.invalidEscape, r.length⟩
    | _ => .error ⟨.unfinished .text, 0⟩
  suffix {s n r} h := by
    split at h
    · next a b c d t =>
      split at h
      · cases h; exact ⟨[a, b, c, d], rfl⟩
      · cases h
    · cases h

/-- The first half of a character outside the basic plane. -/
def isLeading (n : Nat) : Bool :=
  0xD800 ≤ n && n ≤ 0xDBFF

/-- The second half. -/
def isTrailing (n : Nat) : Bool :=
  0xDC00 ≤ n && n ≤ 0xDFFF

/-- The character a leading and a trailing half stand for. -/
def joinHalves (leading trailing : Nat) : Char :=
  Char.ofNat ((leading - 0xD800) * 0x400 + (trailing - 0xDC00) + 0x10000)

/-- What follows `\u`: the character written by one escape, or by two that are its
halves. -/
def escapedUnit : Reader Char := do
  let n ← hexUnit
  if isTrailing n then fail .loneLeadingSurrogate
  else if isLeading n then do
    let backslash ← next (.unfinished .text)
    if backslash != ascii '\\' then fail .unfinishedSurrogate
    else do
      let u ← next (.unfinished .text)
      if u != ascii 'u' then fail .unfinishedSurrogate
      else do
        let m ← hexUnit
        if isTrailing m then pure (joinHalves n m) else fail .loneLeadingSurrogate
  else pure (Char.ofNat n)

/-- The one-letter escapes and the bytes they stand for. -/
def shortEscape? (b : UInt8) : Option UInt8 :=
  if b == ascii '"' || b == ascii '\\' || b == ascii '/' then some b
  else if b == ascii 'b' then some 0x08
  else if b == ascii 'f' then some 0x0C
  else if b == ascii 'n' then some 0x0A
  else if b == ascii 'r' then some 0x0D
  else if b == ascii 't' then some 0x09
  else none

/-- What follows a backslash, as the bytes it stands for. -/
def escape : Reader Bytes := do
  let b ← next (.unfinished .text)
  if b == ascii 'u' then do
    let c ← escapedUnit
    pure (String.utf8EncodeChar c)
  else
    match shortEscape? b with
    | some c => pure [c]
    | none => fail .invalidEscape

/-- The text that was collected, if it is UTF-8. -/
def closeText (collected : Bytes) : Except Fault String :=
  match Text.ofBytes? collected.reverse with
  | some s => .ok s
  | none => .error .invalidCodePoint

/-- One byte or escape of a text; `collected` holds the bytes so far, last first. -/
def textStep (collected : Bytes) : Reader (Bytes ⊕ String) := do
  let b ← next (.unfinished .text)
  if b == ascii '"' then do
    let s ← ofExcept (closeText collected)
    pure (.inr s)
  else if b == ascii '\\' then do
    let bs ← escape
    pure (.inl (bs.reverse ++ collected))
  else if b < 0x20 then fail .controlCharacter
  else pure (.inl (b :: collected))

/-- A text, from after its opening quotation mark to its closing one. -/
def text : Reader String :=
  iterate textStep (fun _ => (strict_next _).bind _) []

/-- Passes over an escape that is well-formed, whatever it stands for. -/
def skipEscape : Reader Unit := do
  let b ← next (.unfinished .text)
  if b == ascii 'u' then do
    let _ ← hexUnit
    pure ()
  else if (shortEscape? b).isSome then pure ()
  else fail .invalidEscape

/-- Passes over one byte or escape. -/
def skipTextStep (_ : Unit) : Reader (Unit ⊕ Unit) := do
  let b ← next (.unfinished .text)
  if b == ascii '"' then pure (.inr ())
  else if b == ascii '\\' then do
    skipEscape
    pure (.inl ())
  else if b < 0x20 then fail .controlCharacter
  else pure (.inl ())

/-- Passes over a text, from after its opening quotation mark. -/
def skipText : Reader Unit :=
  iterate skipTextStep (fun _ => (strict_next _).bind _) ()

end Reader

end ReviewDesk.Json
