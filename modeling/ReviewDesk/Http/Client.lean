/-
The client's part in an exchange.

Not every URL can be written into a request, and where it cannot nothing is sent.  An
answer may send the client elsewhere: after some statuses the same is asked there once
more, after others only what is there, and this goes on ten times at most.  So one call
sends from none to eleven requests, and the last answer is the one that counts.

What goes wrong is reported as an error, which is about the content of an answer, about
its status, or about neither.
-/
import ReviewDesk.Http.Basic

namespace ReviewDesk.Http

/-! ### Errors -/

/-- What the client reports of an exchange that went wrong. -/
structure Error where
  /-- Whether it is the content of an answer that could not be had. -/
  isDecode : Bool
  /-- The status it is about. -/
  status : Option Nat
  text : String
  deriving DecidableEq, Repr

namespace Error

/-- An error that is about neither content nor status. -/
def plain (text : String) : Error :=
  ⟨false, none, text⟩

/-- An error with a request, of which no more is said than where it was to go. -/
def about (r : Request) (what : String) : Error :=
  plain (what ++ " for url (" ++ r.url.bare.toText ++ ")")

/-- No answer came. -/
def sending (r : Request) : Error :=
  about r "error sending request"

/-- The URL cannot be written into a request. -/
def builder (r : Request) : Error :=
  about r "builder error"

/-- This request was one too many to be sent elsewhere. -/
def redirect (r : Request) : Error :=
  about r "error following redirect"

/-- The body of an answer broke off. -/
def body : Error :=
  ⟨true, none, "error decoding response body"⟩

end Error

/-! ### What can be sent -/

/-- Longer URLs are not sent. -/
def maxUrlLength : Nat := 65534

/-- The characters that the host of a URL may have and a request must not. -/
def isUnsendable (c : Char) : Bool :=
  c == '"' || c == '`' || c == '\x7b' || c == '\x7d'

/-- A URL that can be written into a request. -/
@[irreducible]
def isSendable (url : Url) : Bool :=
  url.bare.toText.length ≤ maxUrlLength && !url.host.chars.any isUnsendable

/-! ### Being sent elsewhere -/

/-- An answer that names another place. -/
structure Redirect where
  status : Nat
  body : Option Bytes
  target : Url
  deriving DecidableEq, Repr

/-- What is asked at the other place, if the client goes there: the same after the statuses
that ask for that, what is there after those that do not, and nothing after the rest. -/
def Request.redirected? (r : Request) (d : Redirect) : Option Request :=
  if d.status = 307 ∨ d.status = 308 then
    match r with
    | .get _ => some (.get d.target)
    | .post _ document => some (.post d.target document)
  else if d.status = 301 ∨ d.status = 302 ∨ d.status = 303 then some (.get d.target)
  else none

/-- How often the client goes elsewhere for one request. -/
def maxRedirects : Nat := 10

/-- How a request ended to which an answer had led: if nothing came, this says of what. -/
def Ending.reportedOf (r : Request) : Ending → Ending
  | .unanswered => .failed (Error.sending r).text
  | e => e

/-- All that came of one request. -/
structure Call where
  /-- What was sent, in order. -/
  sent : List Request
  /-- How the last of it ended. -/
  ending : Ending
  deriving DecidableEq, Repr

/-- Sends a request and goes where these answers lead, so many times at most; the ending is
that of the last request if all of them lead on. -/
def Request.follow (ending : Ending) (left : Nat) (r : Request) : List Redirect → Call
  | [] => ⟨[r], ending⟩
  | d :: ds =>
    match r.redirected? d, left with
    | none, _ => ⟨[r], .answered d.status d.body⟩
    | some _, 0 => ⟨[r], .failed (Error.redirect r).text⟩
    | some next, left + 1 =>
      let rest := next.follow ending left ds
      ⟨r :: rest.sent, rest.ending.reportedOf next⟩
termination_by structural ds => ds

/-- What comes of a request if these answers send the client elsewhere, one after another,
and after them an exchange ends like this. -/
def Request.call (r : Request) (redirects : List Redirect) (ending : Ending) : Call :=
  if isSendable r.url then r.follow ending maxRedirects redirects
  else ⟨[], .failed (Error.builder r).text⟩

end ReviewDesk.Http
