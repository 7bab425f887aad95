/-
What can be said on the command line.

There are options that take a value, switches that are on or off, and two questions
about the program itself.  All have a name, some have a letter, and some can be given by
a variable of the environment.  Besides there is one file.
-/
import ReviewDesk.Settings
import ReviewDesk.Text.Printed
import ReviewDesk.Environment.Basic

namespace ReviewDesk.CommandLine

/-- An option that takes a value. -/
inductive Valued where
  | apiUrl
  | format
  deriving DecidableEq, Repr

/-- An option that is on or off. -/
inductive Switch where
  | debug
  | check
  deriving DecidableEq, Repr

/-- A question about the program. -/
inductive Question where
  | help
  | version
  deriving DecidableEq, Repr

/-- Whatever can be asked for by a name or a letter. -/
inductive Entry where
  | valued (v : Valued)
  | switch (s : Switch)
  | question (q : Question)
  deriving DecidableEq, Repr

namespace Entry

/-- The name, as it stands behind two dashes. -/
def name : Entry → String
  | .valued .apiUrl => "api-url"
  | .valued .format => "format"
  | .switch .debug => "debug"
  | .switch .check => "check"
  | .question .help => "help"
  | .question .version => "version"

/-- The letter, as it stands behind one dash. -/
def letter? : Entry → Option Char
  | .valued .apiUrl => none
  | .valued .format => some 'f'
  | .switch .debug => some 'd'
  | .switch .check => none
  | .question .help => some 'h'
  | .question .version => some 'V'

/-- In the order in which the help text has them. -/
def all : List Entry :=
  [ .valued .apiUrl, .valued .format, .switch .debug, .switch .check, .question .help,
    .question .version ]

/-- Names count in full and as they are written. -/
def ofName? (name : String) : Option Entry :=
  all.find? (·.name == name)

/-- Letters count as they are written. -/
def ofLetter? (letter : Char) : Option Entry :=
  all.find? (·.letter? == some letter)

theorem ofName?_name (e : Entry) : ofName? e.name = some e := by
  rcases e with (_ | _) | (_ | _) | (_ | _) <;> decide

/-- How the option is written, with a name for its value. -/
def form : Entry → String
  | .valued .apiUrl => "--api-url <API_URL>"
  | .valued .format => "--format <FORMAT>"
  | e => "--" ++ e.name

/-- The variable of the environment that sets the option too. -/
def environmentName? : Entry → Option String
  | .valued .apiUrl => some "CODE_REVIEW_API_URL"
  | .valued .format => some "CODE_REVIEW_FORMAT"
  | .switch .debug => some "CODE_REVIEW_DEBUG"
  | _ => none

/-- What the environment sets the option to. -/
def valueIn? (e : Entry) (env : Environment) : Option String :=
  e.environmentName?.bind env.get?

end Entry

/-- The variables of the environment that count. -/
def environmentNames : List String :=
  Entry.all.filterMap (·.environmentName?)

/-- Where a value goes. -/
inductive Place where
  | file
  | entry (e : Entry)
  deriving DecidableEq, Repr

namespace Place

/-- How the place is written in a message. -/
def form : Place → String
  | .file => "[FILE]"
  | .entry e => e.form

/-- The values that can stand there, where they can be listed. -/
def choices : Place → List String
  | .entry (.valued .format) => ["text", "json"]
  | .entry (.switch .debug) => ["true", "false"]
  | _ => []

/-- The choices as they are shown. -/
def shownChoices (p : Place) : String :=
  if p.choices.isEmpty then ""
  else "[possible values: " ++ String.intercalate ", " p.choices ++ "]"

end Place

/-- Why a command line makes no sense. -/
inductive Misuse where
  /-- There is no such option, or no room for another file. -/
  | unexpected (argument : String)
  /-- A value for an option that takes none. -/
  | surplusValue (value : String) (e : Entry)
  | repeated (e : Entry)
  | valueMissing (p : Place)
  | invalidValue (value : String) (p : Place)
  deriving DecidableEq, Repr

namespace Misuse

/-- A message, and below it the choices if there are some. -/
def withChoices (p : Place) (s : String) : String :=
  if p.choices.isEmpty then s else s ++ "\n  " ++ p.shownChoices

/-- What is said of a misuse, without the word in front. -/
def reason : Misuse → String
  | .unexpected argument => "unexpected argument '" ++ Text.printed argument ++ "' found"
  | .surplusValue value e =>
    "unexpected value '" ++ Text.printed value ++ "' for '" ++ e.form
      ++ "' found; no more were expected"
  | .repeated e => "the argument '" ++ e.form ++ "' cannot be used multiple times"
  | .valueMissing p =>
    withChoices p ("a value is required for '" ++ p.form ++ "' but none was supplied")
  | .invalidValue value p =>
    withChoices p ("invalid value '" ++ Text.printed value ++ "' for '" ++ p.form ++ "'")

/-- The first paragraph of the complaint. -/
def message (m : Misuse) : String :=
  "error: " ++ m.reason

end Misuse

end ReviewDesk.CommandLine
