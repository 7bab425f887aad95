/-
An answer as it comes over the wire.

Bytes arrive a few at a time, so the question is always what they amount to so far.  The
head says how the end of the body is found: after so many bytes, after the last of a row
of chunks, or where the connection ends.  The body of an answer that is no success is
not waited for.
-/
import ReviewDesk.Http.Basic

namespace ReviewDesk.Http

/-- What is known of a body. -/
inductive Body where
  | whole (bs : Bytes)
  | unfinished
  | broken
  deriving DecidableEq, Repr

/-- How the end of a body is found. -/
inductive Framing where
  | empty
  | length (n : Nat)
  | chunked
  | untilClose
  deriving DecidableEq, Repr

/-! ### Heads -/

/-- A line, given from its last byte, without the return at its end. -/
def lineOf : Bytes → Bytes
  | 0x0D :: before => before.reverse
  | read => read.reverse

/-- The lines up to an empty one, and what follows it; `line` is what is read of the
first line, the last byte first.  None as long as there is no empty line. -/
def head? (line : Bytes) : Bytes → Option (List Bytes × Bytes)
  | [] => none
  | b :: bs =>
    if b = 0x0A then
      if (lineOf line).isEmpty then some ([], bs)
      else (head? [] bs).map fun (lines, rest) => (lineOf line :: lines, rest)
    else head? (b :: line) bs

theorem head?_rest_lt {line bs rest : Bytes} {lines : List Bytes}
    (h : head? line bs = some (lines, rest)) : rest.length < bs.length := by
  induction bs generalizing line lines with
  | nil => simp [head?] at h
  | cons b bs ih =>
    rw [head?] at h
    split at h
    · split at h
      · simp_all
      · obtain ⟨⟨ls, r⟩, hr, he⟩ := Option.map_eq_some_iff.mp h
        simp only [Prod.mk.injEq] at he
        exact Nat.lt_succ_of_lt (ih (he.2 ▸ hr))
    · exact Nat.lt_succ_of_lt (ih h)

/-- One character a byte. -/
def chars (bs : Bytes) : List Char :=
  bs.map fun b => Char.ofNat b.toNat

/-- The status in the first line of an answer. -/
def status? (line : Bytes) : Option Nat :=
  match chars line with
  | 'H' :: 'T' :: 'T' :: 'P' :: '/' :: '1' :: '.' :: v :: ' ' :: a :: b :: c :: rest =>
    let status := Decimal.value [a, b, c]
    if Decimal.isDigit v ∧ [a, b, c].all Decimal.isDigit ∧ Status.isPossible status
        ∧ (rest.isEmpty ∨ rest.head? = some ' ') then
      some status
    else none
  | _ => none

/-- The name of a field in small letters, and its value. -/
def field (line : Bytes) : String × List Char :=
  let cs := chars line
  let name := (cs.takeWhile (· ≠ ':')).map Char.toLower
  let value := ((cs.dropWhile (· ≠ ':')).drop 1).dropWhile Char.isWhitespace
  (String.ofList name, (value.reverse.dropWhile Char.isWhitespace).reverse)

/-- The values of all fields of a name. -/
def values (fields : List (String × List Char)) (name : String) : List (List Char) :=
  (fields.filter (·.1 == name)).map (·.2)

/-- How the end of the body is found, if the head says so in a way that makes sense. -/
def framing? (status : Nat) (fields : List (String × List Char)) : Option Framing :=
  let isChunked (value : List Char) := "chunked".toList.isSuffixOf (value.map Char.toLower)
  if Status.isBodiless status then some .empty
  else if (values fields "transfer-encoding").any isChunked then some .chunked
  else
    match values fields "content-length" with
    | [] => some .untilClose
    | n :: others =>
      if !n.isEmpty && n.all Decimal.isDigit && others.all (· == n) then
        some (.length (Decimal.value n))
      else none

/-! ### Bodies -/

/-- Where in a row of chunks the reader is. -/
inductive ChunkMode where
  /-- In the size of a chunk, of which this much is read. -/
  | size (n : Option Nat)
  /-- In what follows the size on its line. -/
  | extension (n : Nat)
  | content (left : Nat)
  /-- Between the content of a chunk and the next size. -/
  | gap
  /-- After the last chunk; whether the present line is empty so far. -/
  | trailer (isEmpty : Bool)

/-- After the line with the size; the last chunk has none. -/
def ChunkMode.afterSize (n : Nat) : ChunkMode :=
  if n = 0 then .trailer true else .content n

/-- What the chunks from here on amount to. -/
def chunks (m : ChunkMode) (read : Bytes) : Bytes → Body
  | [] => .unfinished
  | b :: bs =>
    match m with
    | .size n =>
      match Url.hexValue? (Char.ofNat b.toNat), n with
      | some d, _ => chunks (.size (some (16 * n.getD 0 + d))) read bs
      | none, none => .broken
      | none, some n =>
        if b = 0x0A then chunks (.afterSize n) read bs
        else if b = 0x0D ∨ b = 0x20 ∨ b = 0x3B then chunks (.extension n) read bs
        else .broken
    | .extension n =>
      if b = 0x0A then chunks (.afterSize n) read bs else chunks (.extension n) read bs
    | .content left =>
      if left ≤ 1 then chunks .gap (b :: read) bs
      else chunks (.content (left - 1)) (b :: read) bs
    | .gap =>
      if b = 0x0A then chunks (.size none) read bs
      else if b = 0x0D then chunks .gap read bs
      else .broken
    | .trailer isEmpty =>
      if b = 0x0A then if isEmpty then .whole read.reverse else chunks (.trailer true) read bs
      else chunks (.trailer (isEmpty && b == 0x0D)) read bs

/-- What the bytes after a head amount to. -/
def body (f : Framing) (bs : Bytes) (closed : Bool) : Body :=
  match f with
  | .empty => .whole []
  | .length n => if n ≤ bs.length then .whole (bs.take n) else .unfinished
  | .chunked => chunks (.size none) [] bs
  | .untilClose => if closed then .whole bs else .unfinished

/-! ### Answers -/

/-- How the exchange ended, if the bytes so far tell.  After the connection is closed
they do. -/
def ending? (closed : Bool) (received : Bytes) : Option Ending :=
  match _h : head? [] received with
  | none => if closed then some .unanswered else none
  | some ([], _) => some .unanswered
  | some (first :: lines, rest) =>
    match status? first with
    | none => some .unanswered
    | some status =>
      if Status.isInterim status then ending? closed rest
      else if !Status.isSuccess status then some (.answered status none)
      else
        match framing? status (lines.map field) with
        | none => some .unanswered
        | some f =>
          match body f rest closed with
          | .whole bs => some (.answered status (some bs))
          | .broken => some (.answered status none)
          | .unfinished => if closed then some (.answered status none) else none
termination_by received.length
decreasing_by exact head?_rest_lt (by assumption)

/-- How the exchange ended, of which this much was received before the end. -/
def endingAtClose (received : Bytes) : Ending :=
  (ending? true received).getD .unanswered

end ReviewDesk.Http
