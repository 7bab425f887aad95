/-
JSON values and their text.

Members keep the order in which they were given.  The compact text has no white space;
the spread text puts every item on a line of its own, indented by two spaces a level.
Only what must be escaped is: the quotation mark, the backslash and the control
characters.  A double that is not a number has no text and is written as null.
-/
import ReviewDesk.Json.Number

namespace ReviewDesk

/-- A value; an object keeps its members in order, and a key may occur twice. -/
inductive Json where
  | null
  | bool (b : Bool)
  | num (n : Json.Number)
  | text (s : String)
  | list (items : List Json)
  | object (members : List (String × Json))

namespace Json

def ofNat (n : Nat) : Json :=
  .num (.int n)

/-- A member, if there is something to write. -/
def member? {α : Type} (key : String) (write : α → Json) : Option α → List (String × Json)
  | none => []
  | some v => [(key, write v)]

/-- Four lower-case hexadecimal digits. -/
def escapedHex (n : Nat) : List Char :=
  let ds := Text.hex n
  List.replicate (4 - ds.length) '0' ++ ds

/-- A character in a text: itself, or the escape for it. -/
def escapedChar (c : Char) : List Char :=
  if c = '"' then ['\\', '"']
  else if c = '\\' then ['\\', '\\']
  else if c = '\x08' then ['\\', 'b']
  else if c = '\x0c' then ['\\', 'f']
  else if c = '\n' then ['\\', 'n']
  else if c = '\r' then ['\\', 'r']
  else if c = '\t' then ['\\', 't']
  else if c.toNat < 0x20 then ['\\', 'u'] ++ escapedHex c.toNat
  else [c]

/-- A text between quotation marks. -/
def textChars (s : String) : List Char :=
  '"' :: s.toList.flatMap escapedChar ++ ['"']

/-- A number; a double that is not finite has no text of its own. -/
def Number.chars : Number → List Char
  | .int n => (Decimal.ofInt n).toList
  | .double x => if x.isFinite then (Decimal.ofFloat x).toList else "null".toList

def boolChars (b : Bool) : List Char :=
  if b then "true".toList else "false".toList

/-! ### Compact text -/

mutual

/-- A value without white space. -/
def compactChars : Json → List Char
  | .null => "null".toList
  | .bool b => boolChars b
  | .num n => n.chars
  | .text s => textChars s
  | .list items => '[' :: compactItems items
  | .object members => '\x7b' :: compactMembers members

/-- The rest of a list, from after its bracket. -/
def compactItems : List Json → List Char
  | [] => [']']
  | [v] => compactChars v ++ [']']
  | v :: vs => compactChars v ++ ',' :: compactItems vs

/-- The rest of an object, from after its brace. -/
def compactMembers : List (String × Json) → List Char
  | [] => ['\x7d']
  | [(k, v)] => textChars k ++ ':' :: compactChars v ++ ['\x7d']
  | (k, v) :: ms => textChars k ++ ':' :: compactChars v ++ ',' :: compactMembers ms

end

def compact (v : Json) : String :=
  String.ofList (compactChars v)

/-! ### Spread text -/

/-- A new line at the given depth. -/
def newLine (depth : Nat) : List Char :=
  '\n' :: List.replicate (2 * depth) ' '

mutual

/-- A value at the given depth, from where its first character stands. -/
def spreadChars (depth : Nat) : Json → List Char
  | .null => "null".toList
  | .bool b => boolChars b
  | .num n => n.chars
  | .text s => textChars s
  | .list [] => "[]".toList
  | .list items => '[' :: spreadItems depth items
  | .object [] => ['\x7b', '\x7d']
  | .object members => '\x7b' :: spreadMembers depth members

/-- The rest of a list that is not empty, from after its bracket. -/
def spreadItems (depth : Nat) : List Json → List Char
  | [] => newLine depth ++ [']']
  | [v] => newLine (depth + 1) ++ spreadChars (depth + 1) v ++ newLine depth ++ [']']
  | v :: vs =>
    newLine (depth + 1) ++ spreadChars (depth + 1) v ++ ',' :: spreadItems depth vs

/-- The rest of an object that is not empty, from after its brace. -/
def spreadMembers (depth : Nat) : List (String × Json) → List Char
  | [] => newLine depth ++ ['\x7d']
  | [(k, v)] =>
    newLine (depth + 1) ++ textChars k ++ ": ".toList ++ spreadChars (depth + 1) v
      ++ newLine depth ++ ['\x7d']
  | (k, v) :: ms =>
    newLine (depth + 1) ++ textChars k ++ ": ".toList ++ spreadChars (depth + 1) v
      ++ ',' :: spreadMembers depth ms

end

def spread (v : Json) : String :=
  String.ofList (spreadChars 0 v)

end Json

end ReviewDesk
