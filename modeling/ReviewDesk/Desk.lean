/-
The desk: a session together with the calls to the service that are still out.

A submission that is accepted becomes a call.  The service may answer its calls in any
order, and whoever waits for a call may walk away from it; either way the call is gone.
An answer is brought to the session, which decides by the ticket whether it still
matters.  Walking away is not an answer: the session stays in flight until it is
cleared.
-/
import ReviewDesk.Session.Basic
import ReviewDesk.Display.Panel
import ReviewDesk.Run

namespace ReviewDesk

/-- What can be done with the input at the moment. -/
structure Controls where
  inputEnabled : Bool
  submitEnabled : Bool
  clearEnabled : Bool
  deriving DecidableEq, Repr

namespace Controls

/-- What the state and the code leave to be done. -/
def ofState (s : Session.State) : Controls where
  inputEnabled := !s.isSubmitting
  submitEnabled := !s.isSubmitting && !Text.isBlank s.code
  clearEnabled := !s.isSubmitting && !s.code.isEmpty

/-- What the submit button says. -/
def submitLabel (c : Controls) : String :=
  if c.inputEnabled then "Review Code" else "Analyzing..."

def toJson (c : Controls) : Json :=
  .object [
    ("input_enabled", .bool c.inputEnabled),
    ("submit_enabled", .bool c.submitEnabled),
    ("clear_enabled", .bool c.clearEnabled),
    ("submit_label", .text c.submitLabel)]

end Controls

/-- A call the service has not answered. -/
structure Call where
  id : Nat
  ticket : Session.Ticket

/-- The session, and what became of its submissions on the way to the service. -/
structure Desk where
  session : Session
  /-- Calls that can still be answered. -/
  calls : List Call
  /-- The code of every call ever made, in order. -/
  sent : List String

namespace Desk

/-- What can happen at a desk. -/
inductive Action where
  | setCode (code : String)
  | submit
  /-- The service answers a call. -/
  | settle (id : Nat) (outcome : Outcome)
  /-- Nobody waits for a call any more. -/
  | abandon (id : Nat)
  | clear
  | display

/-- What is answered to an action. -/
inductive Answer where
  | edited (accepted : Bool)
  /-- Blank code, or a request in flight: nothing was sent. -/
  | ignored
  /-- A call was made; calls are numbered from zero. -/
  | pending (id : Nat)
  /-- The outcome is what the session shows now. -/
  | applied
  /-- The session was cleared before the outcome came. -/
  | superseded
  /-- There is no such call, or it is already gone. -/
  | noCall
  | done
  | shown (panel : Display.Panel)

/-- A new session, and nothing sent. -/
def new : Desk := ⟨.new, [], []⟩

def state (d : Desk) : Session.State :=
  d.session.state

/-- What can be done now. -/
def controls (d : Desk) : Controls :=
  .ofState d.state

/-- The panel that is up. -/
def display (d : Desk) : Display.Panel :=
  .ofState d.state

/-- The call of this number, if it is still out. -/
def call? (d : Desk) (id : Nat) : Option Call :=
  d.calls.find? (·.id == id)

/-- The calls less one of them. -/
def without (d : Desk) (id : Nat) : List Call :=
  d.calls.filter (·.id != id)

/-- Replaces the code, unless a request is in flight. -/
def setCode (d : Desk) (code : String) : Desk × Answer :=
  let (session, accepted) := d.session.edit code
  ({ d with session }, .edited accepted)

/-- Makes a call, unless the session refuses; its number is how many were made before. -/
def submit (d : Desk) : Desk × Answer :=
  match d.session.submit with
  | (_, none) => (d, .ignored)
  | (session, some ticket) =>
    let id := d.sent.length
    (⟨session, d.calls ++ [⟨id, ticket⟩], d.sent ++ [ticket.request.code]⟩, .pending id)

/-- Brings the answer to a call to the session.  The call is gone either way. -/
def settle (d : Desk) (id : Nat) (outcome : Outcome) : Desk × Answer :=
  match d.call? id with
  | none => (d, .noCall)
  | some call =>
    match d.session.resolve call.ticket outcome with
    | (session, .applied) => (⟨session, d.without id, d.sent⟩, .applied)
    | (session, .stale) => (⟨session, d.without id, d.sent⟩, .superseded)

/-- Drops a call without an answer; the session is left as it is. -/
def abandon (d : Desk) (id : Nat) : Desk × Answer :=
  match d.call? id with
  | none => (d, .noCall)
  | some _ => ({ d with calls := d.without id }, .done)

/-- Clears the session.  The calls stay out. -/
def clear (d : Desk) : Desk × Answer :=
  ({ d with session := d.session.clear }, .done)

/-- One action. -/
def step (d : Desk) : Action → Desk × Answer
  | .setCode code => d.setCode code
  | .submit => d.submit
  | .settle id outcome => d.settle id outcome
  | .abandon id => d.abandon id
  | .clear => d.clear
  | .display => (d, .shown d.display)

/-- The answers to a sequence of actions, and the desk after them. -/
def run (d : Desk) (as : List Action) : Desk × List Answer :=
  runOf step d as

end Desk

end ReviewDesk
