/-
What the program says about itself.

Options stand in one column and what they are for in another.  An option that the
environment can set shows the variable with its present value, and a value of several
lines keeps to the column.
-/
import ReviewDesk.CommandLine.Basic

namespace ReviewDesk.CommandLine

def versionText : String := "code-review 1.0.0\n"

/-- The one line that shows how the program is called. -/
def usage : String := "Usage: code-review [OPTIONS] [FILE]"

/-- The width of the column of options. -/
def column : Nat := 27

namespace Entry

/-- What an option is for. -/
def purpose : Entry → String
  | .valued .apiUrl => "Review service base URL"
  | .valued .format => "Output format: text or json"
  | .switch .debug => "Enable debug logging"
  | .switch .check => "Only check that the review service is reachable and healthy"
  | .question .help => "Print help"
  | .question .version => "Print version"

/-- The value that is taken if none is given. -/
def default? : Entry → Option String
  | .valued .apiUrl => some defaultApiUrl
  | .valued .format => some Format.text.name
  | _ => none

/-- The option, by its letter and its name. -/
def heading (e : Entry) : String :=
  match e.letter? with
  | some c => "  -" ++ String.singleton c ++ ", " ++ e.form
  | none => "      " ++ e.form

/-- A value of several lines, kept to the column. -/
def indented (value : String) : String :=
  String.ofList (value.toList.flatMap fun c =>
    if c = '\n' then c :: List.replicate column ' ' else [c])

/-- What is said about the values of an option. -/
def remarks (e : Entry) (env : Environment) : List String :=
  let fromVariable := (e.environmentName?).map fun v =>
    "[env: " ++ v ++ "=" ++ indented (Text.printed ((e.valueIn? env).getD "")) ++ "]"
  let fromDefault := (e.default?).map fun d => "[default: " ++ d ++ "]"
  let choices := match e with
    | .valued _ => (Place.entry e).shownChoices
    | _ => ""
  fromVariable.toList ++ fromDefault.toList ++ if choices.isEmpty then [] else [choices]

/-- An option with all that is said of it. -/
def helpLine (e : Entry) (env : Environment) : String :=
  let heading := e.heading
  let gap := String.ofList (List.replicate (column - heading.length) ' ')
  heading ++ gap ++ String.intercalate " " (e.purpose :: e.remarks env) ++ "\n"

end Entry

def helpText (env : Environment) : String :=
  "Submit source code to a review service and show the feedback\n\n" ++ usage
    ++ "\n\nArguments:\n  [FILE]  File containing the code to review (reads stdin when omitted)"
    ++ "\n\nOptions:\n" ++ String.join (Entry.all.map (·.helpLine env))

/-- A misuse, with a reminder of what would have made sense. -/
def Misuse.report (m : Misuse) : String :=
  m.message ++ "\n\n" ++ usage ++ "\n\nFor more information, try '--help'.\n"

/-- What is printed in answer. -/
def Question.answer (env : Environment) : Question → String
  | .help => helpText env
  | .version => versionText

end ReviewDesk.CommandLine
