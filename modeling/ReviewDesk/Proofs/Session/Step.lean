/-
What a step of a session does.

`Move` lists every step there is: what was done, under which condition, what it answered
and what it left.  `move_step` says that a session takes no other.  Tickets are whatever
the one who brings them back makes of them: a step does not ask where a ticket is from.

What is said of runs of machines in general holds of sessions, with the moves as the steps
that there are; `History h s` says that the steps `h`, oldest first, led from a new session
to `s`.
-/
import ReviewDesk.Session.Run
import ReviewDesk.Proofs.Session.Basic
import ReviewDesk.Proofs.Run

namespace ReviewDesk.Session

/-- One step of a run of a session. -/
abbrev Step := ReviewDesk.Step Session Action Answer

/-- The step that an action leads to. -/
def stepOf (s : Session) (a : Action) : Step :=
  ReviewDesk.stepOf step s a

/-- The steps of a run, oldest first. -/
def steps (s : Session) (as : List Action) : List Step :=
  stepsOf step s as

@[simp] theorem steps_nil (s : Session) : s.steps [] = [] := rfl

theorem steps_cons (s : Session) (a : Action) (as : List Action) :
    s.steps (a :: as) = s.stepOf a :: (s.step a).1.steps as := rfl

theorem run_cons (s : Session) (a : Action) (as : List Action) :
    (s.run (a :: as)).1 = ((s.step a).1.run as).1 := rfl

theorem run_append (s : Session) (as bs : List Action) :
    (s.run (as ++ bs)).1 = ((s.run as).1.run bs).1 :=
  runOf_append step s as bs

/-! ### Moves -/

/-- The steps that a session takes. -/
inductive Move : Step → Prop
  | edit {s : Session} (code : String) (hidle : s.state.isSubmitting = false) :
      Move ⟨s, .edit code, .edited true, ⟨.idle code, s.generation⟩⟩
  | editRefused {s : Session} (code : String) (hbusy : s.state.isSubmitting = true) :
      Move ⟨s, .edit code, .edited false, s⟩
  | submit {s : Session} (r : Request) (hidle : s.state.isSubmitting = false) :
      Move ⟨s, .submit, .submitted (some ⟨s.generation + 1, r⟩),
        ⟨.submitting r.code, s.generation + 1⟩⟩
  | submitRefused {s : Session}
      (h : s.state.isSubmitting = true ∨ Text.isBlank s.state.code = true) :
      Move ⟨s, .submit, .submitted none, s⟩
  | applied {s : Session} {t : Ticket} (o : Outcome) (hexp : s.Expects t) :
      Move ⟨s, .resolve t o, .resolved .applied,
        ⟨settled s.state.code o, s.generation⟩⟩
  | stale {s : Session} {t : Ticket} (o : Outcome) (hexp : ¬ s.Expects t) :
      Move ⟨s, .resolve t o, .resolved .stale, s⟩
  | clear {s : Session} : Move ⟨s, .clear, .cleared, ⟨.empty, s.generation + 1⟩⟩

theorem move_edit (s : Session) (code : String) : Move (s.stepOf (.edit code)) := by
  by_cases hbusy : s.state.isSubmitting = true
  · refine move_of_eq ?_ (.editRefused code hbusy)
    simp only [step, edit_refused hbusy]
  · have hidle : s.state.isSubmitting = false := by simpa using hbusy
    refine move_of_eq ?_ (.edit code hidle)
    simp only [step, edit_accepted hidle]

theorem move_submit (s : Session) : Move (s.stepOf .submit) := by
  by_cases hbusy : s.state.isSubmitting = true
  · refine move_of_eq ?_ (.submitRefused (.inl hbusy))
    simp only [step, submit_in_flight hbusy]
  · have hidle : s.state.isSubmitting = false := by simpa using hbusy
    by_cases hb : Text.isBlank s.state.code = true
    · refine move_of_eq ?_ (.submitRefused (.inr hb))
      simp only [step, submit_blank hb]
    · have hb' : Text.isBlank s.state.code = false := by simpa using hb
      refine move_of_eq ?_ (.submit ⟨s.state.code, hb'⟩ hidle)
      simp only [step, submit_accepted hidle hb']

theorem move_resolve (s : Session) (t : Ticket) (o : Outcome) :
    Move (s.stepOf (.resolve t o)) := by
  by_cases hexp : s.Expects t
  · refine move_of_eq ?_ (.applied o hexp)
    simp only [step, resolve_expected hexp]
  · refine move_of_eq ?_ (.stale o hexp)
    simp only [step, resolve_unexpected hexp]

/-- A session takes no other step. -/
theorem move_step (s : Session) (a : Action) : Move (s.stepOf a) := by
  cases a with
  | edit code => exact move_edit s code
  | submit => exact move_submit s
  | resolve t o => exact move_resolve s t o
  | clear => exact .clear

/-! ### Histories -/

/-- The steps, oldest first, that led from a new session to this one. -/
abbrev History : List Step → Session → Prop :=
  ReviewDesk.History Move new

theorem history_steps (as : List Action) : History (new.steps as) (new.run as).1 :=
  ReviewDesk.History.nil.append move_step as

theorem History.before {h older rest : List Step} {s : Session} {st : Step}
    (past : History h s) (hh : h = older ++ st :: rest) : History older st.before ∧ Move st :=
  ReviewDesk.History.before past hh

end ReviewDesk.Session
