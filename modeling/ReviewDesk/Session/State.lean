/-
What a session is doing.

A session is in one of four states, and in each of them it holds the code that is in
the input.
-/
import ReviewDesk.Review.Document

namespace ReviewDesk.Session

/-- What a session is doing, with the code in the input. -/
inductive State where
  /-- Waiting for input. -/
  | idle (code : String)
  /-- A request is in flight. -/
  | submitting (code : String)
  /-- The last request brought a review. -/
  | success (code : String) (review : Review)
  /-- The last request failed. -/
  | failure (code : String) (message : String)

namespace State

/-- Nothing entered yet. -/
def empty : State := .idle ""

/-- The code in the input, which every state has. -/
def code : State → String
  | .idle code => code
  | .submitting code => code
  | .success code _ => code
  | .failure code _ => code

/-- Whether a request is in flight. -/
def isSubmitting : State → Bool
  | .submitting _ => true
  | _ => false

/-- The review that is shown. -/
def review? : State → Option Review
  | .success _ review => some review
  | _ => none

/-- What is shown of a failure. -/
def message? : State → Option String
  | .failure _ message => some message
  | _ => none

/-- The name of the state in its document. -/
def name : State → String
  | .idle _ => "idle"
  | .submitting _ => "submitting"
  | .success _ _ => "success"
  | .failure _ _ => "failure"

/-- The members after the name of the state. -/
def members : State → List (String × Json)
  | .idle code => [("code", .text code)]
  | .submitting code => [("code", .text code)]
  | .success code review => [("code", .text code), ("result", review.toJson)]
  | .failure code message => [("code", .text code), ("message", .text message)]

def toJson (s : State) : Json :=
  .object (("status", .text s.name) :: s.members)

end State

end ReviewDesk.Session
