/-
Sessions under a sequence of actions.

Every action answers, also when it is refused, so a run is told by its answers.  A
ticket may be brought back any number of times, and to a session that never issued it.
-/
import ReviewDesk.Session.Basic
import ReviewDesk.Run

namespace ReviewDesk.Session

/-- What can be done with a session. -/
inductive Action where
  | edit (code : String)
  | submit
  | resolve (ticket : Ticket) (outcome : Outcome)
  | clear

/-- What is answered to an action. -/
inductive Answer where
  | edited (accepted : Bool)
  | submitted (ticket : Option Ticket)
  | resolved (resolution : Resolution)
  | cleared

/-- Whether the action was turned down. -/
def Answer.isRefusal : Answer → Bool
  | .edited accepted => !accepted
  | .submitted ticket => ticket.isNone
  | .resolved resolution => resolution = .stale
  | .cleared => false

/-- One action. -/
def step (s : Session) : Action → Session × Answer
  | .edit code => let (s', accepted) := s.edit code; (s', .edited accepted)
  | .submit => let (s', ticket) := s.submit; (s', .submitted ticket)
  | .resolve t outcome => let (s', r) := s.resolve t outcome; (s', .resolved r)
  | .clear => (s.clear, .cleared)

/-- The answers to a sequence of actions, and the session after them. -/
def run (s : Session) (as : List Action) : Session × List Answer :=
  runOf step s as

end ReviewDesk.Session
