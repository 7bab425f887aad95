/-
One exchange with a web server.

A request goes out.  Either an answer comes back or none does: nobody listens, the
connection ends first, what comes is no answer, or whoever sends it gives up.  An answer
has a status; its body may break off before its end, and then it is as good as not there.
-/
import ReviewDesk.Url.User

namespace ReviewDesk.Http

/-- What is asked of a server. -/
inductive Request where
  | get (url : Url)
  /-- Hands in a JSON document. -/
  | post (url : Url) (document : Bytes)
  deriving DecidableEq, Repr

/-- How an exchange ended. -/
inductive Ending where
  | unanswered
  /-- Given up, for this reason. -/
  | failed (reason : String)
  | answered (status : Nat) (body : Option Bytes)
  deriving DecidableEq, Repr

namespace Request

def method : Request → String
  | .get _ => "GET"
  | .post _ _ => "POST"

def url : Request → Url
  | .get url => url
  | .post url _ => url

/-- What is handed in. -/
def body : Request → Bytes
  | .get _ => []
  | .post _ document => document

/-- What kind of document the body is. -/
def contentType? : Request → Option String
  | .get _ => none
  | .post _ _ => some "application/json"

/-- The path that is asked for. -/
def target (r : Request) : List Char :=
  Url.Path.chars r.url.path

end Request

/-- How this program introduces itself. -/
def userAgent : String := "code-review-client/1.0.0 (rust)"

namespace Status

/-- Statuses of three digits; there are no others. -/
def isPossible (status : Nat) : Bool :=
  100 ≤ status && status < 1000

/-- The request did what it was to do. -/
def isSuccess (status : Nat) : Bool :=
  200 ≤ status && status < 300

/-- The answer proper is still to come. -/
def isInterim (status : Nat) : Bool :=
  100 ≤ status && status < 200 && status != 101

/-- An answer with this status has no body, whatever follows it. -/
def isBodiless (status : Nat) : Bool :=
  status < 200 || status == 204 || status == 304

end Status

end ReviewDesk.Http
