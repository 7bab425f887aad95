/-
Values with variables in them.

A value in an environment file is written bare or between quotes, or in parts of each.
In all but single quotes a backslash escapes and a dollar sign stands before the name of
a variable; braces around a name let it hold any character.  A bare value ends at a
space, and only a comment may follow it.

A name without braces takes the character that ends it along as it is, also if that
would be a quote.
-/
import ReviewDesk.Environment.Basic
import ReviewDesk.Text.Alphanumeric

namespace ReviewDesk.Environment

/-- A character that stands for itself, or a variable. -/
inductive Piece where
  | literal (c : Char)
  | named (name : String)
  deriving DecidableEq, Repr

/-- A value that is still to be filled in. -/
abbrev Template := List Piece

namespace Template

/-- Where in a value the reader is; `quoted` tells double quotes from none. -/
inductive Mode where
  | open (quoted : Bool)
  /-- Between single quotes. -/
  | single
  | escaped (quoted : Bool)
  /-- In a name, of which this much is read, the last character first. -/
  | name (quoted : Bool) (read : List Char)
  /-- In a name between braces. -/
  | braced (quoted : Bool) (read : List Char)
  /-- After the value. -/
  | ended

/-- What an escaped character stands for. -/
def unescaped? (c : Char) : Option Char :=
  if c = 'n' then some '\n'
  else if "\\'\"$ ".toList.contains c then some c
  else none

/-- The variable whose name was read. -/
def nameOf (read : List Char) : Piece :=
  .named (String.ofList read.reverse)

/-- Reads a value to its end. -/
def pieces : Mode → List Char → Option Template
  | .open quoted, [] => if quoted then none else some []
  | .open quoted, c :: cs =>
    if c = '$' then pieces (.name quoted []) cs
    else if c = '\\' then pieces (.escaped quoted) cs
    else if c = '"' then pieces (.open (!quoted)) cs
    else if c = '\'' ∧ !quoted then pieces .single cs
    else if (c = ' ' ∨ c = '\t') ∧ !quoted then pieces .ended cs
    else (pieces (.open quoted) cs).map (.literal c :: ·)
  | .single, [] => none
  | .single, c :: cs =>
    if c = '\'' then pieces (.open false) cs
    else (pieces .single cs).map (.literal c :: ·)
  | .escaped quoted, [] => if quoted then none else some []
  | .escaped quoted, c :: cs => do
    let d ← unescaped? c
    (pieces (.open quoted) cs).map (.literal d :: ·)
  | .name quoted read, [] => if quoted then none else some [nameOf read]
  | .name quoted read, c :: cs =>
    if Text.isAlphanumeric c then pieces (.name quoted (c :: read)) cs
    else if c = '\x7b' ∧ read.isEmpty then pieces (.braced quoted []) cs
    else if c = '$' then (pieces (.name quoted []) cs).map (nameOf read :: ·)
    else (pieces (.open quoted) cs).map fun ps => nameOf read :: .literal c :: ps
  | .braced _ _, [] => none
  | .braced quoted read, c :: cs =>
    if c = '\x7d' then (pieces (.open quoted) cs).map (nameOf read :: ·)
    else pieces (.braced quoted (c :: read)) cs
  | .ended, [] => some []
  | .ended, c :: cs =>
    if c = ' ' ∨ c = '\t' then pieces .ended cs
    else if c = '#' then some []
    else none

/-- The value that is written, if it is well-formed. -/
def ofChars? (s : List Char) : Option Template :=
  pieces (.open false) s

/-- A variable that is not set is empty. -/
def Piece.chars (env : Environment) : Piece → List Char
  | .literal c => [c]
  | .named name => ((env.get? name).getD "").toList

/-- The value with the variables filled in. -/
def expand (t : Template) (env : Environment) : String :=
  String.ofList (t.flatMap (Piece.chars env))

end Template

end ReviewDesk.Environment
