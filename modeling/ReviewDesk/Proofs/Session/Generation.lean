/-
Only differences of generations matter.

A session never looks at its generation alone: it compares it with that of a ticket, and
it moves it by one.  So a session whose generation is `g` further on, given tickets that
are `g` further on, does the same and answers the same.  There is one equation for each
operation, with the session and the ticket moved on by `later`.
-/
import ReviewDesk.Proofs.Session.Basic

namespace ReviewDesk.Session

/-- The session with its generation moved on. -/
def later (g : UInt64) (s : Session) : Session :=
  ⟨s.state, s.generation + g⟩

/-- The ticket of a generation that much later. -/
def Ticket.later (g : UInt64) (t : Ticket) : Ticket :=
  ⟨t.generation + g, t.request⟩

variable {g : UInt64} {s : Session} {t : Ticket}

@[simp] theorem later_state : (s.later g).state = s.state := rfl

@[simp] theorem later_generation : (s.later g).generation = s.generation + g := rfl

@[simp] theorem later_zero : s.later 0 = s := by
  simp [later]

theorem edit_later (code : String) :
    (s.later g).edit code = ((s.edit code).1.later g, (s.edit code).2) := by
  by_cases hbusy : s.state.isSubmitting = true
  · rw [edit_refused hbusy, edit_refused (s := s.later g) hbusy]
  · have hidle : s.state.isSubmitting = false := by simpa using hbusy
    rw [edit_accepted hidle, edit_accepted (s := s.later g) hidle]
    rfl

theorem submit_later :
    (s.later g).submit = (s.submit.1.later g, s.submit.2.map (Ticket.later g)) := by
  by_cases hbusy : s.state.isSubmitting = true
  · rw [submit_in_flight hbusy, submit_in_flight (s := s.later g) hbusy]
    rfl
  · have hidle : s.state.isSubmitting = false := by simpa using hbusy
    by_cases hb : Text.isBlank s.state.code = true
    · rw [submit_blank hb, submit_blank (s := s.later g) hb]
      rfl
    · have hb' : Text.isBlank s.state.code = false := by simpa using hb
      have hgen : s.generation + g + 1 = s.generation + 1 + g := by
        rw [UInt64.add_assoc, UInt64.add_comm g, ← UInt64.add_assoc]
      rw [submit_accepted hidle hb', submit_accepted (s := s.later g) hidle hb']
      simp [later, Ticket.later, hgen]

theorem expects_later : (s.later g).Expects (t.later g) ↔ s.Expects t := by
  simp [Expects, Ticket.later]

theorem resolve_later (o : Outcome) :
    (s.later g).resolve (t.later g) o = ((s.resolve t o).1.later g, (s.resolve t o).2) := by
  by_cases hexp : s.Expects t
  · rw [resolve_expected hexp, resolve_expected (expects_later.mpr hexp)]
    rfl
  · rw [resolve_unexpected hexp, resolve_unexpected (mt expects_later.mp hexp)]

theorem clear_later : (s.later g).clear = s.clear.later g := by
  unfold clear later
  rw [UInt64.add_assoc, UInt64.add_comm g, ← UInt64.add_assoc]

end ReviewDesk.Session
