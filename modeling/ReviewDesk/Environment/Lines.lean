/-
The lines of an environment file.

A line goes on over a line end inside quotes.  A comment ends a line, and does not start
inside quotes.  A file that ends in the middle of a line, between quotes or after a
backslash, does not have that line.

A comment after a value starts with a number sign after one space.  After more spaces
the sign is left in the line: who reads the value has to expect it there.
-/
import ReviewDesk.Text.Blank

namespace ReviewDesk.Environment

/-- Where in a line the reader is. -/
inductive LineMode where
  /-- Before the first character that is not blank; whether the next blank is the second
  of two. -/
  | start (afterBlank : Bool)
  | plain
  /-- After a blank. -/
  | blank
  | escaped
  | quoted (mark : Char)
  | quotedEscaped (mark : Char)
  /-- In a comment, and whether it is the whole line. -/
  | comment
  deriving DecidableEq, Repr

namespace LineMode

/-- After one more character of the line. -/
def next (m : LineMode) (c : Char) : LineMode :=
  let fresh (afterBlank : LineMode) : LineMode :=
    if c = '\\' then .escaped
    else if c = '"' ∨ c = '\'' then .quoted c
    else if Text.isBlankChar c ∧ c ≠ '\r' then afterBlank
    else .plain
  match m with
  | .start afterBlank =>
    if c = '#' then .comment
    else if Text.isBlankChar c then
      .start (c ≠ '\r' && !afterBlank)
    else fresh .plain
  | .plain => fresh .blank
  | .blank => if c = '#' then .comment else fresh .plain
  | .escaped => .plain
  | .quoted mark => if c = '\\' then .quotedEscaped mark else if c = mark then .plain else m
  | .quotedEscaped mark => .quoted mark
  | .comment => .comment

/-- Whether a line end ends the line. -/
def endsAtLineEnd : LineMode → Bool
  | .quoted _ => false
  | .quotedEscaped _ => false
  | _ => true

/-- Whether the file may end here. -/
def mayEnd : LineMode → Bool
  | .start afterBlank => !afterBlank
  | .plain => true
  | .comment => true
  | _ => false

end LineMode

/-- The lines from inside a line on, of which this much is read, the last character
first. -/
def linesFrom (m : LineMode) (read : List Char) : List Char → List (List Char)
  | [] => if m.mayEnd then [read.reverse] else []
  | c :: cs =>
    if c = '\n' then
      if m.endsAtLineEnd then read.reverse :: linesFrom (.start false) [] cs
      else linesFrom (m.next c) (c :: read) cs
    else
      let m' := m.next c
      linesFrom m' (if m' = .comment then read else c :: read) cs

/-- The lines of a file. -/
def lines (s : List Char) : List (List Char) :=
  linesFrom (.start false) [] s

end ReviewDesk.Environment
