/-
Environment files.

A file has one variable to a line, with its value; comments and empty lines do not
count.  A value can use the variables that are set before it.  The first line that is
malformed ends the file, and what stands before it counts.

Whoever starts the program knows better than a file, and an earlier line better than a
later one: a variable that is set keeps its value.
-/
import ReviewDesk.Environment.Lines
import ReviewDesk.Environment.Template
import ReviewDesk.Text.Split
import ReviewDesk.Text.Utf8

namespace ReviewDesk.Environment

/-- A variable, and what it is set to. -/
structure Assignment where
  name : String
  value : Template

namespace Assignment

/-- The variables that the assignment sets and uses. -/
def mentioned (a : Assignment) : List String :=
  a.name :: a.value.filterMap fun
    | .named name => some name
    | .literal _ => none

/-- The line without blanks around it. -/
def trimmed (line : List Char) : List Char :=
  let front := line.dropWhile Text.isBlankChar
  (front.reverse.dropWhile Text.isBlankChar).reverse

/-- What may stand in a name behind its first character. -/
def isNameChar (c : Char) : Bool :=
  c.isAlphanum || c == '_' || c == '.'

/-- A name, and what follows it and blanks. -/
def name? : List Char → Option (List Char × List Char)
  | [] => none
  | c :: cs =>
    if c.isAlpha ∨ c = '_' then
      some (c :: cs.takeWhile isNameChar,
        (cs.dropWhile isNameChar).dropWhile Text.isBlankChar)
    else none

/-- The name before the equals sign, and what follows the sign.  The word `export` may
stand in front of the name; before the sign it is a name like any other. -/
def target? (line : List Char) : Option (List Char × List Char) := do
  let (name, rest) ← name? line
  match rest with
  | '=' :: value => some (name, value)
  | _ =>
    if name = "export".toList then
      match ← name? rest with
      | (name, '=' :: value) => some (name, value)
      | _ => none
    else none

/-- No assignment is left of an empty line or a comment. -/
def isSilent (line : List Char) : Bool :=
  match line with
  | [] => true
  | c :: _ => c == '#'

/-- The assignment in a line that has one. -/
def ofLine? (line : List Char) : Option Assignment := do
  let (name, rest) ← target? line
  let rest := rest.dropWhile Text.isBlankChar
  let value ← if isSilent rest then some [] else Template.ofChars? rest
  some ⟨String.ofList name, value⟩

end Assignment

/-- The assignments in the lines, up to the first that is malformed. -/
def assignmentsIn : List (List Char) → List Assignment
  | [] => []
  | line :: lines =>
    let line := Assignment.trimmed line
    if Assignment.isSilent line then assignmentsIn lines
    else
      match Assignment.ofLine? line with
      | none => []
      | some a => a :: assignmentsIn lines

/-- The text up to the first line that is not UTF-8. -/
def readable : List Bytes → List Char
  | [] => []
  | [line] => ((Text.ofBytes? line).getD "").toList
  | line :: lines =>
    match Text.ofBytes? line with
    | none => []
    | some s => s.toList ++ '\n' :: readable lines

/-- A byte order mark in front of a file does not count. -/
def withoutMark : Bytes → Bytes
  | 0xEF :: 0xBB :: 0xBF :: rest => rest
  | bs => bs

/-- The assignments in a file. -/
def assignments (file : Bytes) : List Assignment :=
  assignmentsIn (lines (readable (Text.split 0x0A (withoutMark file))))

/-- Sets what a file says. -/
def load (env : Environment) (file : Bytes) : Environment :=
  (assignments file).foldl (fun env a => env.offer a.name (a.value.expand env)) env

end ReviewDesk.Environment
