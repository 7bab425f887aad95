/-
What the operations of a session do.

One equation for each operation and each way it can go.  The proofs about runs cite
these and never open the operations themselves, so that a change to one operation is a
change to its equations here.
-/
import ReviewDesk.Session.Basic

namespace ReviewDesk

theorem Request.ofCode?_of_not_blank {code : String} (h : Text.isBlank code = false) :
    Request.ofCode? code = some ⟨code, h⟩ := by
  unfold Request.ofCode?
  rw [dif_pos h]

theorem Request.ofCode?_of_blank {code : String} (h : Text.isBlank code = true) :
    Request.ofCode? code = none := by
  unfold Request.ofCode?
  rw [dif_neg (by simp [h])]

namespace Session

namespace State

@[simp] theorem isSubmitting_idle (code : String) : (idle code).isSubmitting = false := rfl

@[simp] theorem isSubmitting_submitting (code : String) :
    (submitting code).isSubmitting = true := rfl

@[simp] theorem isSubmitting_empty : empty.isSubmitting = false := rfl

@[simp] theorem code_idle (code : String) : (idle code).code = code := rfl

@[simp] theorem code_submitting (code : String) : (submitting code).code = code := rfl

@[simp] theorem code_empty : empty.code = "" := rfl

end State

variable {s : Session} {t : Ticket}

@[simp] theorem settled_code (code : String) (o : Outcome) : (settled code o).code = code := by
  cases o <;> rfl

@[simp] theorem settled_isSubmitting (code : String) (o : Outcome) :
    (settled code o).isSubmitting = false := by
  cases o <;> rfl

/-! ### Editing -/

theorem edit_refused (h : s.state.isSubmitting = true) (code : String) :
    s.edit code = (s, false) := by
  unfold edit
  rw [if_pos h]

theorem edit_accepted (h : s.state.isSubmitting = false) (code : String) :
    s.edit code = (⟨.idle code, s.generation⟩, true) := by
  unfold edit
  rw [if_neg (by simp [h])]

/-! ### Submitting -/

theorem submit_in_flight (h : s.state.isSubmitting = true) : s.submit = (s, none) := by
  unfold submit
  rw [if_pos h]

theorem submit_blank (h : Text.isBlank s.state.code = true) : s.submit = (s, none) := by
  unfold submit
  split
  · rfl
  · rw [Request.ofCode?_of_blank h]

theorem submit_accepted (h : s.state.isSubmitting = false)
    (hb : Text.isBlank s.state.code = false) :
    s.submit = (⟨.submitting s.state.code, s.generation + 1⟩,
      some ⟨s.generation + 1, ⟨s.state.code, hb⟩⟩) := by
  unfold submit
  rw [if_neg (by simp [h]), Request.ofCode?_of_not_blank hb]

/-! ### Bringing a ticket back -/

/-- The session still waits for the outcome that belongs to this ticket. -/
def Expects (s : Session) (t : Ticket) : Prop :=
  t.generation = s.generation ∧ s.state.isSubmitting = true

theorem resolve_expected (h : s.Expects t) (o : Outcome) :
    s.resolve t o = (⟨settled s.state.code o, s.generation⟩, .applied) := by
  unfold resolve
  exact if_pos h

theorem resolve_unexpected (h : ¬ s.Expects t) (o : Outcome) :
    s.resolve t o = (s, .stale) := by
  unfold resolve
  exact if_neg h

end Session

end ReviewDesk
