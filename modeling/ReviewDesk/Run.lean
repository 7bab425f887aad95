/-
Runs of machines that answer.

A machine is given by its step: in some state it takes an action, answers it, and goes on
from another state.  A run of it is told by its answers.  Sessions and desks are such
machines.
-/

namespace ReviewDesk

/-- The answers to a sequence of actions, and the state after them. -/
def runOf {σ α β : Type} (step : σ → α → σ × β) (s : σ) : List α → σ × List β
  | [] => (s, [])
  | a :: as =>
    let (s', answer) := step s a
    let (s'', answers) := runOf step s' as
    (s'', answer :: answers)

end ReviewDesk
