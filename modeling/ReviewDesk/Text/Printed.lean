/-
What of a text is printed.

A terminal acts on control characters and on the sequences that an escape starts, and
prints the rest.  Text that somebody else typed is cut down to that rest before it is
repeated, so that repeating it does nothing but print.
-/

namespace ReviewDesk.Text

/-- How far a terminal is into a sequence. -/
inductive Sequence where
  /-- In none: what comes is printed. -/
  | none
  /-- Just after the escape. -/
  | escape
  /-- After an escape and characters that announce one more. -/
  | announced
  /-- Between the opening bracket and the final letter. -/
  | control
  /-- In a string that a bell ends too, or not. -/
  | string (endsAtBell : Bool)
  deriving DecidableEq, Repr

namespace Sequence

/-- White space in ASCII less the vertical tab: it is printed even inside a sequence,
which it breaks off. -/
def isSpacing (c : Char) : Bool :=
  c == '\t' || c == '\n' || c == '\x0c' || c == '\r'

/-- The final letter of a sequence, or the rest of what an escape announces. -/
def isFinal (lowest : Nat) (c : Char) : Bool :=
  lowest ≤ c.toNat && c.toNat < 0x7F

/-- After a character that is not printed. -/
def next (s : Sequence) (c : Char) : Sequence :=
  if c == '\x1b' then .escape
  else if c == '\x18' || c == '\x1a' then .none
  else
    match s with
    | .none => .none
    | .escape =>
      if c == '[' then .control
      else if c == ']' then .string true
      else if "PX^_".toList.contains c then .string false
      else if isFinal 0x30 c then .none
      else if isFinal 0x20 c then .announced
      else .escape
    | .announced => if isFinal 0x30 c then .none else .announced
    | .control => if isFinal 0x40 c then .none else .control
    | .string endsAtBell => if endsAtBell && c == '\x07' then .none else .string endsAtBell

/-- Whether a character is printed. -/
def prints (s : Sequence) (c : Char) : Bool :=
  match s with
  | .none => isSpacing c || (0x20 ≤ c.toNat && c != '\x7f')
  | .string _ => false
  | _ => isSpacing c

end Sequence

/-- What is printed from inside a sequence on. -/
def printedFrom (s : Sequence) : List Char → List Char
  | [] => []
  | c :: cs => if s.prints c then c :: printedFrom .none cs else printedFrom (s.next c) cs

/-- What is printed of a text. -/
def printed (s : String) : String :=
  String.ofList (printedFrom .none s.toList)

end ReviewDesk.Text
