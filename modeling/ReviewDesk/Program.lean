/-
The program.

All it does to the world is to read one input and to have one request sent, and what it
does next depends on nothing but what came of that.  So a program is a tree: it finishes,
or it does one of the two and goes on from what came back.  `run` follows the tree through
a world that is given as functions.

Where the service is gets checked before anything is read, and code that is blank is
never sent.
-/
import ReviewDesk.CommandLine.Reading
import ReviewDesk.CommandLine.Help
import ReviewDesk.Display.Panel
import ReviewDesk.Environment.File
import ReviewDesk.Service.Exchange
import ReviewDesk.Session.Basic

namespace ReviewDesk

/-- Where code can be read from. -/
inductive Source where
  | standardInput
  | file (name : String)
  deriving DecidableEq, Repr

/-- Why nothing could be read. -/
inductive ReadFault where
  | missing
  | directory
  | other (reason : String)
  deriving DecidableEq, Repr

/-- The reason in the words of the system. -/
def ReadFault.message : ReadFault → String
  | .missing => "No such file or directory (os error 2)"
  | .directory => "Is a directory (os error 21)"
  | .other reason => reason

/-- How the program ended, as far as whoever started it can tell. -/
inductive Status where
  | success
  | failure
  | misuse
  deriving DecidableEq, Repr

/-- The number that whoever started the program is given. -/
def Status.code : Status → Nat
  | .success => 0
  | .failure => 1
  | .misuse => 2

/-- What is left of a program that has ended. -/
structure Result where
  status : Status
  /-- What it printed. -/
  output : String
  /-- What it complained about. -/
  complaint : String
  deriving DecidableEq, Repr

/-- What to do next, and how to go on from what comes of it. -/
inductive Program where
  | finish (r : Result)
  | read (source : Source) (next : Except ReadFault Bytes → Program)
  | send (request : Http.Request) (next : Http.Ending → Program)

namespace Program

/-! ### Running -/

/-- What inputs hold, and how exchanges end. -/
structure World where
  input : Source → Except ReadFault Bytes
  /-- How the exchange ends that no answer sends elsewhere. -/
  service : Http.Request → Http.Ending
  /-- The answers before that which do, in order. -/
  redirects : Http.Request → List Http.Redirect := fun _ => []

/-- What comes of a request. -/
def World.call (w : World) (r : Http.Request) : Http.Call :=
  r.call (w.redirects r) (w.service r)

/-- A program that has ended, with all it did, in order. -/
structure Run where
  result : Result
  inputs : List Source
  /-- All that were sent, those included to which an answer led. -/
  requests : List Http.Request

/-- Follows a program to its end. -/
def run (w : World) : Program → Run
  | .finish r => ⟨r, [], []⟩
  | .read source next =>
    let rest := run w (next (w.input source))
    { rest with inputs := source :: rest.inputs }
  | .send request next =>
    let call := w.call request
    let rest := run w (next call.ending)
    { rest with requests := call.sent ++ rest.requests }

/-! ### What it does -/

/-- Ends with a failure; nothing is printed. -/
def fail (f : Failure) : Program :=
  .finish ⟨.failure, "", f.shown ++ "\n"⟩

/-- A value as it is printed. -/
def printed (format : Format) (json : Json) (text : String) : String :=
  match format with
  | .json => json.spread ++ "\n"
  | .text => text

/-- Prints how the service is. -/
def showHealth (format : Format) (h : Health) : Program :=
  .finish {
    status := if h.isHealthy then .success else .failure
    output := printed format h.toJson h.toText
    complaint := "" }

/-- Asks how the service is. -/
def check (s : Settings) : Program :=
  match s.service.healthUrl with
  | .error f => fail f
  | .ok url =>
    let request := Service.healthRequest url
    .send request fun ending =>
      match Service.health request ending with
      | .error f => fail f
      | .ok h => showHealth s.format h

/-- Prints what a session shows. -/
def showPanel (format : Format) (p : Display.Panel) : Program :=
  .finish {
    status := match p with
      | .error _ => .failure
      | _ => .success
    output := printed format p.toJson p.toText
    complaint := "" }

/-- The text of an input. -/
def codeOf : Except ReadFault Bytes → Except Failure String
  | .error e => .error (.io e.message)
  | .ok bs =>
    match Text.ofBytes? bs with
    | some code => .ok code
    | none => .error (.io "stream did not contain valid UTF-8")

/-- Has code reviewed in a session of its own. -/
def submit (format : Format) (url : Url) (code : String) : Program :=
  match (Session.new.edit code).1.submit with
  | (_, none) => fail .emptyCode
  | (session, some ticket) =>
    let request := Service.reviewRequest url ticket.request
    .send request fun ending =>
      let (session, _) := session.resolve ticket (Service.review request ending)
      showPanel format (.ofState session.state)

/-- The file that is set up, or what is piped in. -/
def source (s : Settings) : Source :=
  match s.file with
  | some name => .file name
  | none => .standardInput

/-- Has the input reviewed. -/
def review (s : Settings) : Program :=
  match s.service.reviewUrl with
  | .error f => fail f
  | .ok url =>
    .read (source s) fun input =>
      match codeOf input with
      | .error f => fail f
      | .ok code => submit s.format url code

/-- Asks how the service is or has the input reviewed, as it is set up. -/
def ofSettings (s : Settings) : Program :=
  if s.check then check s else review s

/-- The program that a command line asks for. -/
def ofCommandLine (arguments : List String) (env : Environment) : Program :=
  match CommandLine.read arguments env with
  | .ok s => ofSettings s
  | .error (.question q) => .finish ⟨.success, q.answer env, ""⟩
  | .error (.misuse m) => .finish ⟨.misuse, "", m.report⟩

end Program

end ReviewDesk
