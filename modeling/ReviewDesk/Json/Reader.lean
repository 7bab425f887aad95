/-
Reading from the front of a byte string.

A reader answers with a value and what it left, or with the first fault it met.  That
what it left is the end of what it was given is part of its type: it is what makes
reading until a closing bracket terminate, for whatever reader of one item the
brackets hold.
-/
import ReviewDesk.Json.Fault
import ReviewDesk.Text.Utf8

namespace ReviewDesk.Json

/-- A fault, and how many bytes were still unread when it was met. -/
structure Stop where
  fault : Fault
  left : Nat

/-- Reads from the front; what it left is the end of what it was given. -/
structure Reader (α : Type) where
  run : Bytes → Except Stop (α × Bytes)
  suffix : ∀ {s a r}, run s = .ok (a, r) → r <:+ s

namespace Reader

variable {α β σ : Type}

protected def pure (a : α) : Reader α where
  run s := .ok (a, s)
  suffix h := by cases h; exact List.suffix_refl _

/-- Stops here. -/
def fail (e : Fault) : Reader α where
  run s := .error ⟨e, s.length⟩
  suffix h := by cases h

protected def bind (p : Reader α) (f : α → Reader β) : Reader β where
  run s :=
    match p.run s with
    | .ok (a, r) => (f a).run r
    | .error e => .error e
  suffix {s b t} h := by
    split at h
    · next a r hp => exact ((f a).suffix h).trans (p.suffix hp)
    · cases h

instance : Monad Reader where
  pure := Reader.pure
  bind := Reader.bind

@[simp] theorem run_pure (a : α) (s : Bytes) : (pure a : Reader α).run s = .ok (a, s) := rfl

@[simp] theorem run_fail (e : Fault) (s : Bytes) : (fail e : Reader α).run s = .error ⟨e, s.length⟩ := rfl

theorem run_bind (p : Reader α) (f : α → Reader β) (s : Bytes) :
    (p >>= f).run s =
      match p.run s with
      | .ok (a, r) => (f a).run r
      | .error e => .error e := rfl

/-- An answer or a fault that is known already. -/
def ofExcept : Except Fault α → Reader α
  | .ok a => pure a
  | .error e => fail e

/-! ### Single bytes -/

/-- The next byte, which stays unread; `none` at the end. -/
def peek : Reader (Option UInt8) where
  run s := .ok (s.head?, s)
  suffix h := by cases h; exact List.suffix_refl _

/-- The next byte; at the end, the given fault. -/
def next (atEnd : Fault) : Reader UInt8 where
  run
    | [] => .error ⟨atEnd, 0⟩
    | b :: r => .ok (b, r)
  suffix {s a r} h := by
    cases s with
    | nil => cases h
    | cons b t => cases h; exact List.suffix_cons _ _

/-- Drops one byte, if there is one. -/
def skip : Reader Unit where
  run s := .ok ((), s.tail)
  suffix h := by cases h; exact List.tail_suffix _

/-- Stops behind the next byte, which is the one at fault. -/
def failAfterNext (e : Fault) : Reader α := do
  skip
  fail e

/-- The longest run of bytes of one class. -/
def takeWhile (p : UInt8 → Bool) : Reader Bytes where
  run s := .ok (s.takeWhile p, s.dropWhile p)
  suffix h := by cases h; exact List.dropWhile_suffix _

/-! ### Progress -/

/-- Whatever the reader answers, it has used some of the input. -/
def Strict (p : Reader α) : Prop :=
  ∀ ⦃s a r⦄, p.run s = .ok (a, r) → r.length < s.length

theorem strict_fail (e : Fault) : (fail e : Reader α).Strict := by
  intro s a r h; cases h

theorem strict_next (atEnd : Fault) : (next atEnd).Strict := by
  intro s b r h
  cases s with
  | nil => cases h
  | cons c t => cases h; simp

theorem Strict.bind {p : Reader α} (hp : p.Strict) (f : α → Reader β) : (p >>= f).Strict := by
  intro s b t h
  rw [run_bind] at h
  split at h
  · next a r hr => exact Nat.lt_of_le_of_lt ((f a).suffix h).length_le (hp hr)
  · cases h

theorem strict_bind (p : Reader α) {f : α → Reader β} (hf : ∀ a, (f a).Strict) :
    (p >>= f).Strict := by
  intro s b t h
  rw [run_bind] at h
  split at h
  · next a r hr => exact Nat.lt_of_lt_of_le (hf a h) (p.suffix hr).length_le
  · cases h

/-! ### Repetition -/

/-- Steps until one of them answers. -/
def iterateFrom (step : σ → Reader (σ ⊕ α)) (strict : ∀ st, (step st).Strict)
    (st : σ) (s : Bytes) : Except Stop (α × Bytes) :=
  match _h : (step st).run s with
  | .error e => .error e
  | .ok (.inr a, r) => .ok (a, r)
  | .ok (.inl st', r) => iterateFrom step strict st' r
termination_by s.length
decreasing_by exact strict st _h

theorem iterateFrom_suffix (step : σ → Reader (σ ⊕ α)) (strict : ∀ st, (step st).Strict)
    (st : σ) (s : Bytes) {a : α} {r : Bytes}
    (h : iterateFrom step strict st s = .ok (a, r)) : r <:+ s := by
  fun_induction iterateFrom step strict st s with
  | case1 => cases h
  | case2 st s b t hs => cases h; exact (step st).suffix hs
  | case3 st s st' t hs ih => exact (ih h).trans ((step st).suffix hs)

/-- Repeats a step that carries a state, each time using some of the input, until it
answers. -/
def iterate (step : σ → Reader (σ ⊕ α)) (strict : ∀ st, (step st).Strict) (st : σ) :
    Reader α where
  run := iterateFrom step strict st
  suffix := iterateFrom_suffix step strict st _

end Reader

/-! ### Documents -/

/-- The white space of the format: space, tab, line feed and carriage return. -/
def isBlank (b : UInt8) : Bool :=
  b == 0x20 || b == 0x09 || b == 0x0A || b == 0x0D

/-- The white space that comes next, if there is any. -/
def blanks : Reader Bytes :=
  .takeWhile isBlank

/-- A fault and where in the document it is.  Lines count from one; the column is the
number of bytes of the line up to and including the one at fault. -/
structure Misread where
  fault : Fault
  line : Nat
  column : Nat

/-- The fault and where it is. -/
def Misread.message (m : Misread) : String :=
  m.fault.message ++ " at line " ++ Decimal.ofNat m.line ++ " column " ++ Decimal.ofNat m.column

/-- The place behind the bytes that were read. -/
def Misread.behind (read : Bytes) (e : Fault) : Misread where
  fault := e
  line := read.count 0x0A + 1
  column := (read.reverse.takeWhile (· != 0x0A)).length

/-- Where in the document reading stopped. -/
def Stop.place (bs : Bytes) (stop : Stop) : Misread :=
  .behind (bs.take (bs.length - stop.left)) stop.fault

/-- What may stand behind the value of a document. -/
def Reader.finish : Reader Unit := do
  let _ ← blanks
  match ← peek with
  | none => pure ()
  | some _ => failAfterNext .trailingCharacters

/-- A whole document: one value with nothing but white space around it. -/
def Reader.document {α : Type} (p : Reader α) (bs : Bytes) : Except Misread α :=
  match (do let a ← p; Reader.finish; pure a : Reader α).run bs with
  | .ok (a, _) => .ok a
  | .error stop => .error (stop.place bs)

end ReviewDesk.Json
