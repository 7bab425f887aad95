/-
What can go wrong with a review, and what is said about it.

`message` is for the log and names the cause.  `shown` is for the person at the desk:
it keeps what a connection reports about itself, and says no more than that something
went wrong where the cause is the service's.  In particular nothing that a service
sends reaches the screen through a failure.
-/
import ReviewDesk.Review.Document
import ReviewDesk.Text.Blank

namespace ReviewDesk

/-- Why there is no review. -/
inductive Failure where
  /-- There is nothing to review. -/
  | emptyCode
  /-- The exchange with the service did not come to an end. -/
  | transport (message : String)
  /-- The service answered with a status that is not a success. -/
  | response (status : Nat)
  /-- The service answered with something that is not the document asked for. -/
  | decode (reason : String)
  | unknown
  /-- A file or stream could not be read. -/
  | io (reason : String)
  /-- A document could not be read. -/
  | json (reason : String)
  /-- The program was set up wrongly. -/
  | config (reason : String)
  deriving DecidableEq, Repr

namespace Failure

/-- The text for the log, which names the cause. -/
def message : Failure → String
  | .emptyCode => "No code to review: input is empty"
  | .transport message => message
  | .response status => "Review request failed with status " ++ Decimal.ofNat status
  | .decode reason => "Invalid review response: " ++ reason
  | .unknown => "Unknown error"
  | .io reason => "IO error: " ++ reason
  | .json reason => "JSON serialization error: " ++ reason
  | .config reason => "Configuration error: " ++ reason

/-- The text for the screen. -/
def shown : Failure → String
  | .transport message =>
    if Text.isBlank message then "An unknown error occurred." else message
  | .unknown => "An unknown error occurred."
  | .response _ => "Something went wrong with the review request."
  | .decode _ => "The review service returned an invalid response."
  | other => other.message

end Failure

/-- An answer that is not a review is the service's failure. -/
def Review.Refusal.toFailure (r : Review.Refusal) : Failure :=
  .decode r.message

/-- A document of the program's own that cannot be read. -/
def Json.Misread.toFailure (e : Json.Misread) : Failure :=
  .json e.message

end ReviewDesk
