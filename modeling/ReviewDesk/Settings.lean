/-
How the program is set up: what to review, where the service is, how to print.

Settings have a document form of their own.  There the output format is written as a
word, or as an object whose one key is the word and whose value is null.
-/
import ReviewDesk.Review.Document

namespace ReviewDesk

open Json

/-- How what there is to say is printed. -/
inductive Format where
  | text
  | json
  deriving DecidableEq, Repr

/-- Where the review service is. -/
structure Service where
  apiUrl : String
  deriving DecidableEq, Repr

/-- Everything that can be set up. -/
structure Settings where
  /-- The file to review; standard input if there is none. -/
  file : Option String
  apiUrl : String
  format : Format
  debug : Bool
  /-- Only ask the service how it is. -/
  check : Bool
  deriving DecidableEq, Repr

/-! ### Formats -/

namespace Format

/-- The word for a format. -/
def name : Format → String
  | .text => "text"
  | .json => "json"

/-- The format that a word stands for, as it is written. -/
def ofName? (s : String) : Option Format :=
  if s = "text" then some .text
  else if s = "json" then some .json
  else none

theorem ofName?_name (f : Format) : ofName? f.name = some f := by
  cases f <;> decide

def toJson (f : Format) : Json :=
  .text f.name

/-- The same, with a fault for any other word. -/
def ofWord (s : String) : Except Fault Format :=
  match ofName? s with
  | some f => .ok f
  | none => .error (.unknownVariant s "`text` or `json`")

/-- A format written as an object, from after the opening brace. -/
def braced : Reader Format := do
  let name ← Reader.textValue "variant identifier"
  let f ← Reader.ofExcept (ofWord name)
  Reader.colon
  Reader.nullValue "unit"
  let _ ← blanks
  let b ← Reader.next (.unfinished .object)
  if b == ascii '\x7d' then pure f else Reader.fail .expectedValue

/-- A format in either of its forms. -/
def reader : Reader Format :=
  Reader.startingWith fun b =>
    if b == ascii '"' then do
      Reader.skip
      let name ← Reader.text
      Reader.ofExcept (ofWord name)
    else if b == ascii '\x7b' then do
      Reader.skip
      braced
    else Reader.fail .expectedValue

def ofBytes (bs : Bytes) : Except Misread Format :=
  reader.document bs

end Format

/-! ### The service -/

/-- A service running on this machine. -/
def defaultApiUrl : String := "http://localhost:8000"

namespace Service

/-- The service that is asked if nothing is set up. -/
def default : Service := ⟨defaultApiUrl⟩

def toJson (s : Service) : Json :=
  .object [("api_url", .text s.apiUrl)]

def fields : List Field :=
  [.required "api_url" (Reader.textValue "a string")]

def ofRow : Row fields → Service
  | (apiUrl, _) => ⟨apiUrl⟩

def reader : Reader Service := do
  let row ← Reader.record "ClientConfig" fields
  pure (ofRow row)

def ofBytes (bs : Bytes) : Except Misread Service :=
  reader.document bs

end Service

/-! ### Settings -/

namespace Settings

/-- What is done if nothing is set up. -/
def default : Settings := ⟨none, defaultApiUrl, .text, false, false⟩

/-- The service that is asked. -/
def service (s : Settings) : Service := ⟨s.apiUrl⟩

def toJson (s : Settings) : Json :=
  .object [
    ("file", (s.file.map .text).getD .null),
    ("api_url", .text s.apiUrl),
    ("format", s.format.toJson),
    ("debug", .bool s.debug),
    ("check", .bool s.check)]

/-- An object may leave out the file; a list may not. -/
def fields : List Field :=
  [ ⟨"file", Option String, Reader.optional (Reader.textValue "path string"), some none, none⟩,
    .required "api_url" (Reader.textValue "a string"),
    .required "format" Format.reader,
    .required "debug" Reader.boolValue,
    .required "check" Reader.boolValue ]

def ofRow : Row fields → Settings
  | (file, apiUrl, format, debug, check, _) => ⟨file, apiUrl, format, debug, check⟩

def reader : Reader Settings := do
  let row ← Reader.record "Config" fields
  pure (ofRow row)

def ofBytes (bs : Bytes) : Except Misread Settings :=
  reader.document bs

end Settings

end ReviewDesk
