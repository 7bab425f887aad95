/-
Reading a command line.

Words are read from left to right.  A value or a file stays open until the next word
that makes sense, and only then it is checked: so a word that makes no sense is reported
before a fault of the value in front of it.  Questions are answered where they stand,
whatever follows.

What the command line leaves open the environment can set, and what that leaves open has
a default.  A variable that the command line overrules is not even looked at.
-/
import ReviewDesk.CommandLine.Basic
import ReviewDesk.CommandLine.Word

namespace ReviewDesk.CommandLine

/-- What the command line has settled. -/
structure Given where
  file : Option String
  apiUrl : Option String
  format : Option Format
  debug : Bool
  check : Bool
  deriving DecidableEq, Repr

/-- What is open until the next word. -/
inductive Pending where
  /-- An option that waits for its value. -/
  | waiting (v : Valued)
  /-- An option with its value. -/
  | value (v : Valued) (text : String)
  | file (name : String)
  deriving DecidableEq, Repr

/-- How far reading has come. -/
structure Progress where
  given : Given
  pending : Option Pending
  /-- The options have ended. -/
  onlyFiles : Bool
  deriving DecidableEq, Repr

/-- Why reading ended before the end of the command line. -/
inductive Stop where
  | misuse (m : Misuse)
  | question (q : Question)
  deriving DecidableEq, Repr

/-! ### Values -/

/-- The format that a value names. -/
def formatOf (text : String) : Except Misuse Format :=
  let place := Place.entry (.valued .format)
  if text.isEmpty then .error (.valueMissing place)
  else
    match Format.ofName? text with
    | some f => .ok f
    | none => .error (.invalidValue text place)

/-- A switch in the environment is spelled out. -/
def debugOf (text : String) : Except Misuse Bool :=
  let place := Place.entry (.switch .debug)
  if text.isEmpty then .error (.valueMissing place)
  else if text = "true" then .ok true
  else if text = "false" then .ok false
  else .error (.invalidValue text place)

namespace Given

/-- Before the first word. -/
def nothing : Given := ⟨none, none, none, false, false⟩

/-- Every option can be given once. -/
def set (g : Given) (v : Valued) (text : String) : Except Misuse Given :=
  match v with
  | .apiUrl =>
    if g.apiUrl.isSome then .error (.repeated (.valued v))
    else .ok { g with apiUrl := some text }
  | .format =>
    if g.format.isSome then .error (.repeated (.valued v))
    else (formatOf text).map fun f => { g with format := some f }

/-- Every switch can be given once. -/
def turnOn (g : Given) (s : Switch) : Except Misuse Given :=
  match s with
  | .debug =>
    if g.debug then .error (.repeated (.switch s)) else .ok { g with debug := true }
  | .check =>
    if g.check then .error (.repeated (.switch s)) else .ok { g with check := true }

/-- A file has to have a name. -/
def setFile (g : Given) (name : String) : Except Misuse Given :=
  if name.isEmpty then .error (.valueMissing .file) else .ok { g with file := some name }

/-- Checks what is open. -/
def close (g : Given) : Option Pending → Except Misuse Given
  | none => .ok g
  | some (.waiting v) => .error (.valueMissing (.entry (.valued v)))
  | some (.value v text) => g.set v text
  | some (.file name) => g.setFile name

/-- The settings, in an environment. -/
def settings (g : Given) (env : Environment) : Except Misuse Settings := do
  let apiUrl := (g.apiUrl <|> (Entry.valued .apiUrl).valueIn? env).getD defaultApiUrl
  let format ← match g.format, (Entry.valued .format).valueIn? env with
    | some f, _ => .ok f
    | none, some text => formatOf text
    | none, none => .ok .text
  let debug ← match g.debug, (Entry.switch .debug).valueIn? env with
    | false, some text => debugOf text
    | given, _ => .ok given
  pure ⟨g.file, apiUrl, format, debug, g.check⟩

end Given

/-! ### Words -/

namespace Progress

/-- Before the first word. -/
def start : Progress := ⟨.nothing, none, false⟩

/-- A misuse ends the reading. -/
def misused {α : Type} : Except Misuse α → Except Stop α :=
  Except.mapError .misuse

/-- Checks what is open, and leaves nothing open. -/
def closed (p : Progress) : Except Stop Progress :=
  misused ((p.given.close p.pending).map fun g => { p with given := g, pending := none })

/-- An option with its value in the same word. -/
def set (p : Progress) (v : Valued) (text : String) : Except Stop Progress := do
  let p ← p.closed
  let g ← misused (p.given.set v text)
  pure { p with given := g }

/-- An option whose value is to come. -/
def wait (p : Progress) (v : Valued) : Except Stop Progress := do
  let p ← p.closed
  pure { p with pending := some (.waiting v) }

/-- A switch. -/
def turnOn (p : Progress) (s : Switch) : Except Stop Progress := do
  let p ← p.closed
  let g ← misused (p.given.turnOn s)
  pure { p with given := g }

/-- A question, once what is open makes sense. -/
def answer (p : Progress) (q : Question) : Except Stop Progress := do
  let _ ← p.closed
  throw (.question q)

/-- Whether there is a file already. -/
def hasFile (p : Progress) : Bool :=
  match p.pending with
  | some (.file _) => true
  | _ => p.given.file.isSome

/-- A file, which stays open; there is room for one. -/
def file (p : Progress) (name : String) : Except Stop Progress :=
  if p.hasFile then .error (.misuse (.unexpected name))
  else do
    let p ← p.closed
    pure { p with pending := some (.file name) }

/-- A word that is no option: the value somebody waits for, or the file. -/
def plain (p : Progress) (text : String) : Except Stop Progress :=
  match p.pending with
  | some (.waiting v) => .ok { p with pending := some (.value v text) }
  | _ => p.file text

/-- An option by its name, with the value that is tied to it. -/
def named (p : Progress) (name : String) (value : Option String) : Except Stop Progress :=
  match Entry.ofName? name, value with
  | none, _ => .error (.misuse (.unexpected ("--" ++ name)))
  | some (.valued v), some text => p.set v text
  | some (.valued v), none => p.wait v
  | some (.switch s), none => p.turnOn s
  | some (.question q), none => p.answer q
  | some e, some text => .error (.misuse (.surplusValue text e))

/-- Letters one after the other.  All that follows the letter of an option with a value
is that value, less an equals sign in front. -/
def letters (p : Progress) : List Char → Except Stop Progress
  | [] => .ok p
  | c :: cs =>
    match Entry.ofLetter? c with
    | none => .error (.misuse (.unexpected (String.ofList ['-', c])))
    | some (.valued v) =>
      if cs.isEmpty then p.wait v
      else p.set v ((Word.tied? cs).getD (String.ofList cs))
    | some (.switch s) => do
      let p ← p.turnOn s
      letters p cs
    | some (.question q) => p.answer q

/-- One word. -/
def step (p : Progress) (text : String) : Except Stop Progress :=
  if p.onlyFiles then p.file text
  else
    match Word.ofText text with
    | .divider => .ok { p with onlyFiles := true }
    | .named name value => p.named name value
    | .letters cluster => p.letters cluster
    | .plain text => p.plain text

end Progress

/-- The settings that a command line asks for. -/
def read (arguments : List String) (env : Environment) : Except Stop Settings := do
  let p ← arguments.foldlM Progress.step .start
  let p ← p.closed
  Progress.misused (p.given.settings env)

end ReviewDesk.CommandLine
