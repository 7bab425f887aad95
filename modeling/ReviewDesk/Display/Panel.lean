/-
What is shown of a session.

Which panel is up depends on the state alone, and the code in the input has no part in
any of them.
-/
import ReviewDesk.Display.Sheet
import ReviewDesk.Session.State

namespace ReviewDesk.Display

/-- What is up on the screen. -/
inductive Panel where
  /-- Nothing is submitted yet. -/
  | placeholder
  /-- A request is in flight. -/
  | loading
  /-- The last request failed. -/
  | error (message : String)
  /-- The last request brought a review. -/
  | review (sheet : Sheet)
  deriving DecidableEq, Repr

/-- What the service is good for, as advertised before the first request. -/
def features : List String :=
  [ "Multi-language support",
    "Security vulnerability detection",
    "Performance optimization suggestions",
    "Code quality metrics" ]

/-- What is said before the first request. -/
def prompt : String := "Paste your code and click \"Review Code\" to get started"

/-- What is said while a request is in flight. -/
def loadingMessage : String := "Analyzing your code..."

/-- What is said below it. -/
def loadingDetail : String := "This may take a few seconds"

namespace Panel

/-- The panel of a state. -/
def ofState : Session.State → Panel
  | .idle _ => .placeholder
  | .submitting _ => .loading
  | .failure _ message => .error message
  | .success _ r => .review (.ofReview r)

/-- The name of the panel in its document. -/
def name : Panel → String
  | .placeholder => "placeholder"
  | .loading => "loading"
  | .error _ => "error"
  | .review _ => "review"

/-- The members after the name of the panel. -/
def members : Panel → List (String × Json)
  | .placeholder => [("prompt", .text prompt), ("features", .list (features.map .text))]
  | .loading => [("message", .text loadingMessage), ("detail", .text loadingDetail)]
  | .error message => [("message", .text message)]
  | .review s => s.members

/-- The panel as a document. -/
def toJson (p : Panel) : Json :=
  .object (("panel", .text p.name) :: p.members)

/-- The panel in print, line by line. -/
def chars : Panel → List Char
  | .placeholder =>
    line prompt.toList ++ line [] ++ line "Features:".toList
      ++ features.flatMap fun f => line ("  - ".toList ++ f.toList)
  | .loading => line loadingMessage.toList ++ line loadingDetail.toList
  | .error message => line "Error".toList ++ line message.toList
  | .review s => s.chars

def toText (p : Panel) : String :=
  String.ofList p.chars

end Panel

end ReviewDesk.Display
