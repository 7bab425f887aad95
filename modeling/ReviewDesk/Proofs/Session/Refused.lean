/-
A refused action leaves no trace.

An edit and a submission that are refused and a ticket that is stale answer, and do
nothing else: not even the generation moves.  So a run may be told without them.  Which
of them are left out makes no difference, so `LessRefused` lets each be dropped or kept
on its own, and the induction goes along it.
-/
import ReviewDesk.Proofs.Session.Step

namespace ReviewDesk.Session

/-- The second list is the first less some of the refused steps. -/
inductive LessRefused : List Step → List Step → Prop
  | nil : LessRefused [] []
  | keep (st : Step) {all kept : List Step} (h : LessRefused all kept) :
      LessRefused (st :: all) (st :: kept)
  | drop {st : Step} {all kept : List Step} (hst : st.answer.isRefusal = true)
      (h : LessRefused all kept) : LessRefused (st :: all) kept

theorem Move.after_eq_of_isRefusal {st : Step} (hm : Move st)
    (hst : st.answer.isRefusal = true) : st.after = st.before := by
  cases hm with
  | edit code hidle => simp [Answer.isRefusal] at hst
  | submit r hidle => simp [Answer.isRefusal] at hst
  | applied o hexp => simp [Answer.isRefusal] at hst
  | clear => simp [Answer.isRefusal] at hst
  | _ => rfl

theorem step_of_isRefusal {s : Session} {a : Action}
    (h : (s.step a).2.isRefusal = true) : (s.step a).1 = s :=
  (move_step s a).after_eq_of_isRefusal h

theorem after_eq_of_mem_steps {s : Session} {as : List Action} {st : Step}
    (hmem : st ∈ s.steps as) (hst : st.answer.isRefusal = true) : st.after = st.before := by
  induction as generalizing s with
  | nil => simp at hmem
  | cons a as ih =>
      rcases List.mem_cons.mp hmem with rfl | hmem
      · exact step_of_isRefusal hst
      · exact ih hmem

/-- The run of what is left goes as before, step by step, and ends where the whole run
ends. -/
theorem LessRefused.run_eq {s : Session} {as : List Action} {kept : List Step}
    (hless : LessRefused (s.steps as) kept) :
    s.steps (kept.map Step.action) = kept ∧
      (s.run (kept.map Step.action)).1 = (s.run as).1 := by
  induction as generalizing s kept with
  | nil =>
      cases hless
      exact ⟨rfl, rfl⟩
  | cons a as ih =>
      rw [steps_cons] at hless
      cases hless with
      | keep _ hless =>
          obtain ⟨hsteps, hend⟩ := ih hless
          exact ⟨congrArg _ hsteps, hend⟩
      | drop hst hless =>
          -- The rest runs from where the refused step found the session.
          have hsame : (s.step a).1 = s := step_of_isRefusal hst
          rw [hsame] at hless
          rw [run_cons, hsame]
          exact ih hless

/--
**What was refused might as well not have been tried.**

In a run from any session, with tickets from anywhere, a refused step leaves state and
generation as they were.  If some of the refused steps are left out, all others answer
as they did, with the same tickets and the same resolutions, and the session ends with
the same state and generation.
-/
theorem refusals_leave_no_trace (s : Session) (as : List Action) :
    (∀ st ∈ s.steps as, st.answer.isRefusal = true → st.after = st.before) ∧
      (∀ kept, LessRefused (s.steps as) kept →
        s.steps (kept.map Step.action) = kept ∧
          (s.run (kept.map Step.action)).1 = (s.run as).1) :=
  ⟨fun _ hmem hst => after_eq_of_mem_steps hmem hst, fun _ hless => hless.run_eq⟩

/-- An edit, a submission and a ticket are refused while a request is in flight. -/
def refusedInFlight : List Action :=
  [.edit "x", .submit, .edit "y", .submit, .resolve ⟨0, "x", by decide⟩ (.error .unknown),
    .clear]

/-- The edit and the ticket are left out, and the refused submission is not. -/
theorem refusals_leave_no_trace_in_flight :
    ∃ kept, LessRefused (new.steps refusedInFlight) kept ∧
      kept.map Step.action = [.edit "x", .submit, .submit, .clear] ∧
      new.steps [.edit "x", .submit, .submit, .clear] = kept ∧
      (new.run [.edit "x", .submit, .submit, .clear]).1 = (new.run refusedInFlight).1 := by
  have hless : LessRefused (new.steps refusedInFlight) _ :=
    .keep _ (.keep _ (.drop rfl (.keep _ (.drop rfl (.keep _ .nil)))))
  obtain ⟨hsteps, hend⟩ := (refusals_leave_no_trace new refusedInFlight).2 _ hless
  exact ⟨_, hless, rfl, hsteps, hend⟩

end ReviewDesk.Session
