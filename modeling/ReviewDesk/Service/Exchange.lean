/-
What an exchange with the service means.

A status that is not a success settles the matter: what follows it is not looked at.
After a success only a body that came in full is read.  Everything else is an error of
the client, and it is the error that says what kind of failure it was.
-/
import ReviewDesk.Service.Endpoint
import ReviewDesk.Http.Client
import ReviewDesk.Review.Request
import ReviewDesk.Health

namespace ReviewDesk

/-- An error of the client as a failure: one of decoding if it is about content, else one of
the status it is about, else one of transport. -/
def Failure.ofError (e : Http.Error) : Failure :=
  if e.isDecode then .decode e.text
  else
    match e.status with
    | some status => .response status
    | none => .transport e.text

namespace Service

/-- Asks for a review, at the URL for reviews. -/
def reviewRequest (url : Url) (r : Request) : Http.Request :=
  .post url r.body

/-- Asks how the service is, at the URL for that. -/
def healthRequest (url : Url) : Http.Request :=
  .get url

/-- A request that got no answer. -/
def unanswered (r : Http.Request) : Failure :=
  .ofError (.sending r)

/-- A request that was given up. -/
def givenUp (reason : String) : Failure :=
  .ofError (.plain reason)

/-- A body that broke off. -/
def cutOff : Failure :=
  .ofError .body

/-- The body of a success. -/
def content (r : Http.Request) : Http.Ending → Except Failure Bytes
  | .unanswered => .error (unanswered r)
  | .failed reason => .error (givenUp reason)
  | .answered status body =>
    if Http.Status.isSuccess status then
      match body with
      | some bs => .ok bs
      | none => .error cutOff
    else .error (.response status)

/-- The review that came back. -/
def review (r : Http.Request) (e : Http.Ending) : Except Failure Review := do
  let bs ← content r e
  (Review.decode bs).mapError (·.toFailure)

/-- The state of health that came back. -/
def health (r : Http.Request) (e : Http.Ending) : Except Failure Health := do
  let bs ← content r e
  (Health.ofBytes bs).mapError fun m => .decode m.message

end Service

end ReviewDesk
