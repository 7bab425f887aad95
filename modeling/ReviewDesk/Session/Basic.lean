/-
One review session.

A submission is split in two so that nobody has to wait: `submit` hands out a ticket,
and `resolve` brings it back together with how the request ended.  In between the
session may have been cleared.  The generation counts submissions and clears, so a
ticket that is brought back with an older one belongs to a request nobody waits for any
more.

While a request is in flight the code cannot be edited, so the review that comes back is
a review of the code beside it.
-/
import ReviewDesk.Session.State
import ReviewDesk.Review.Request
import ReviewDesk.Failure

namespace ReviewDesk

/-- What a request to the service ends in. -/
abbrev Outcome := Except Failure Review

namespace Session

/-- Stands for one submission. -/
structure Ticket where
  generation : UInt64
  request : Request

/-- What became of a ticket that was brought back. -/
inductive Resolution where
  /-- The outcome is the new state. -/
  | applied
  /-- The session had moved on. -/
  | stale
  deriving DecidableEq, Repr

end Session

/-- A state, and how to tell the latest ticket from older ones. -/
structure Session where
  state : Session.State
  /-- Of the latest submission or clear. -/
  generation : UInt64

namespace Session

/-- Nothing entered, nothing submitted. -/
def new : Session := ⟨.empty, 0⟩

/-- Replaces the code, and drops what is shown.  Refused while a request is in flight. -/
def edit (s : Session) (code : String) : Session × Bool :=
  if s.state.isSubmitting then (s, false)
  else ({ s with state := .idle code }, true)

/-- Starts a request for the current code, unless the code is blank or a request is
already in flight. -/
def submit (s : Session) : Session × Option Ticket :=
  if s.state.isSubmitting then (s, none)
  else
    match Request.ofCode? s.state.code with
    | none => (s, none)
    | some request =>
      let generation := s.generation + 1
      (⟨.submitting request.code, generation⟩, some ⟨generation, request⟩)

/-- The state that an outcome leads to. -/
def settled (code : String) : Outcome → State
  | .ok review => .success code review
  | .error failure => .failure code failure.shown

/-- Brings a ticket back. -/
def resolve (s : Session) (t : Ticket) (outcome : Outcome) : Session × Resolution :=
  if t.generation = s.generation ∧ s.state.isSubmitting then
    ({ s with state := settled s.state.code outcome }, .applied)
  else (s, .stale)

/-- Back to an empty input.  A request still in flight becomes stale. -/
def clear (s : Session) : Session :=
  ⟨.empty, s.generation + 1⟩

end Session

end ReviewDesk
