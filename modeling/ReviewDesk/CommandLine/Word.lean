/-
The words of a command line.

What a word is can be seen from its first characters.  A lone dash is a file like any
other; two dashes end the options.
-/

namespace ReviewDesk.CommandLine

/-- A word, by what its first characters make of it. -/
inductive Word where
  /-- After it there are no options. -/
  | divider
  /-- An option by its name, with the value that is tied to it. -/
  | named (name : String) (value : Option String)
  /-- Options by their letters; a value may follow the last one. -/
  | letters (cluster : List Char)
  | plain (text : String)
  deriving DecidableEq, Repr

namespace Word

/-- The value that an equals sign ties to an option. -/
def tied? : List Char → Option String
  | '=' :: value => some (String.ofList value)
  | _ => none

/-- Tells the words apart. -/
def ofText (text : String) : Word :=
  match text.toList with
  | ['-', '-'] => .divider
  | '-' :: '-' :: option =>
    .named (String.ofList (option.takeWhile (· ≠ '='))) (tied? (option.dropWhile (· ≠ '=')))
  | '-' :: c :: cs => .letters (c :: cs)
  | _ => .plain text

end Word

end ReviewDesk.CommandLine
