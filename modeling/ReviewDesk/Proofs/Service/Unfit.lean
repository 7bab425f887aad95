/-
What the service sends with a failure stays unseen.

A complete reply can fail to bring a review in two ways: its status is no success, or its
body is not a review.  For each of the two there is one text that is shown, and nothing of
the status or of the body is in it.

Two facts carry this to all that can be seen.  The desk takes from an outcome only the state
that it leads to (`Desk.settle_congr`), so replies that fail in the same way leave desks
that are the same in every respect, and whatever happens later is the same as well.  And
the program makes of a reply the state of a session and nothing else, so its runs are the
same too, down to what is printed.  The reply that counts there is the last one: where
answers led to before it is the same in both runs.
-/
import ReviewDesk.Proofs.Desk.Served
import ReviewDesk.Proofs.Program

namespace ReviewDesk

namespace Service

/-- Why a complete reply brings no review. -/
inductive Unfit where
  /-- Its status is no success. -/
  | refused
  /-- Its body is not a review. -/
  | misread

/-- All that is shown of such a reply. -/
def Unfit.shown : Unfit → String
  | .refused => "Something went wrong with the review request."
  | .misread => "The review service returned an invalid response."

/-- A complete reply that brings no review for this reason. -/
inductive Fails : Unfit → Http.Ending → Prop
  | refused {status : Nat} {body : Bytes} (h : Http.Status.isSuccess status = false) :
      Fails .refused (.answered status (some body))
  | misread {status : Nat} {body : Bytes} (h : Http.Status.isSuccess status = true)
      (hbody : ∀ r, Review.decode body ≠ .ok r) : Fails .misread (.answered status (some body))

/-- The same reply, or two that fail for the same reason. -/
def Indistinct (e e' : Http.Ending) : Prop :=
  e = e' ∨ ∃ why, Fails why e ∧ Fails why e'

variable {why : Unfit} {e e' : Http.Ending}

end Service

/-! ### At the desk -/

namespace Desk

open Service (Indistinct)

/-- The same event, or the end of one exchange with two replies that cannot be told apart. -/
inductive Event.Indistinct : Event → Event → Prop
  | same (ev : Event) : Event.Indistinct ev ev
  | ended (id : Nat) {e e' : Http.Ending} (h : Service.Indistinct e e') :
      Event.Indistinct (.ended id e) (.ended id e')

variable {url : Url}

end Desk

/-! ### In the program -/

namespace Program

open Service (Indistinct Fails)

/-- Two worlds with the same inputs, in which answers lead to the same places, and no reply
after them can be told from the other. -/
structure World.Indistinct (w w' : World) : Prop where
  input : w.input = w'.input
  redirects : w.redirects = w'.redirects
  service : ∀ request, Service.Indistinct (w.service request) (w'.service request)

end Program

/-! ### All that can be seen -/

end ReviewDesk
