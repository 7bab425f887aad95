/-
What is shown was answered.

Four things are kept in different places: the state of the session, the tickets, the
codes given to the service, and the answers.  `Justified` is the invariant that ties
them.  It is about the state, constructor by constructor, because each of them makes a
different promise: a session that is submitting holds the code that was sent last; one
that shows a review or a failure holds the code that was sent last and shows how that
very call ended, with nothing changed at the desk since.

An answer that is taken finds the session submitting, and that is where the code comes
from; that it answers the last call and no older one is `Waiting`, and needs the record
to be timely.  Nothing else does.
-/
import ReviewDesk.Proofs.Desk.Waiting
import ReviewDesk.Proofs.Desk.Overdue

namespace ReviewDesk.Desk

/-- The text of the last edit that was accepted since the last clear, if there was one. -/
def entered (h : List Step) : String :=
  ((h.reverse.takeWhile fun s => !s.isClear).findSome? Step.edit?).getD ""

/-- The code in the input at each submission that was accepted. -/
def submitted (h : List Step) : List String :=
  (h.filter Step.isCall).map fun s => s.before.state.code

/-- The step changed nothing at the desk that a review could depend on: it is no clear
and no accepted edit or submission. -/
def Step.isQuiet (s : Step) : Bool :=
  !s.isCall && !s.isClear && s.edit?.isNone

/-- The service answered call `id` like this, the answer was taken, and all has been
quiet since. -/
def TookAnswer (id : Nat) (o : Outcome) (h : List Step) : Prop :=
  Since (fun s => s.action = .settle id o ∧ s.answer = .applied) (fun s => s.isQuiet = true) h

/-- The outcome of the call that was made last is what the state rests on. -/
def RestsOn (o : Outcome) (h : List Step) : Prop :=
  ∃ id, TookAnswer id o h ∧ (Timely h → Latest id h)

variable {h : List Step} {s : Step} {d : Desk} {o : Outcome}

/-! ### The code in the input and the codes sent -/

theorem entered_snoc :
    entered (h ++ [s]) = if s.isClear then "" else s.edit?.getD (entered h) := by
  unfold entered
  rw [List.reverse_append, List.reverse_singleton, List.singleton_append, List.takeWhile_cons]
  by_cases hclear : s.isClear = true
  · simp [hclear]
  · cases hedit : s.edit? <;> simp [hclear, hedit]

theorem Move.code (hm : Move s) :
    s.after.state.code = if s.isClear then "" else s.edit?.getD s.before.state.code := by
  cases hm <;> simp [state, Step.isClear, Step.edit?]

theorem History.code (past : History h d) : d.state.code = entered h := by
  induction past with
  | nil => rfl
  | snoc past hm ih => rw [hm.code, entered_snoc, ih]

theorem History.sent (past : History h d) : d.sent = submitted h := by
  induction past with
  | nil => rfl
  | @snoc h s past hm ih =>
      rw [hm.sent, ih]
      unfold submitted
      cases hcall : Step.isCall s <;> simp [hcall]

/-! ### The state -/

theorem RestsOn.snoc (hrests : RestsOn o h) (hs : s.isQuiet = true) : RestsOn o (h ++ [s]) := by
  obtain ⟨id, htook, hlatest⟩ := hrests
  have hcall : s.isCall = false := by simp_all [Step.isQuiet]
  refine ⟨id, since_snoc.mpr (.inr ⟨htook, hs⟩), fun ht => ?_⟩
  exact since_snoc.mpr (.inr ⟨hlatest ht.of_append, hcall⟩)

/-- What each state promises, after the steps `h` and with these codes sent. -/
def Justified (h : List Step) (sent : List String) : Session.State → Prop
  | .idle _ => True
  | .submitting code => sent.getLast? = some code
  | .success code review => sent.getLast? = some code ∧ RestsOn (.ok review) h
  | .failure code message =>
      sent.getLast? = some code ∧ ∃ e, RestsOn (.error e) h ∧ message = e.shown

theorem Justified.snoc {sent : List String} {st : Session.State} (hj : Justified h sent st)
    (hs : s.isQuiet = true) : Justified (h ++ [s]) sent st := by
  cases st with
  | idle code => trivial
  | submitting code => exact hj
  | success code review => exact ⟨hj.1, hj.2.snoc hs⟩
  | failure code message =>
      obtain ⟨hcode, e, hrests, hmessage⟩ := hj
      exact ⟨hcode, e, hrests.snoc hs, hmessage⟩

/-- A session that is submitting holds the code that was sent last. -/
theorem Justified.getLast?_of_submitting {sent : List String} {st : Session.State}
    (hj : Justified h sent st) (hbusy : st.isSubmitting = true) :
    sent.getLast? = some st.code := by
  cases st with
  | submitting code => exact hj
  | _ => simp [Session.State.isSubmitting] at hbusy

theorem justified_settled {sent : List String} {code : String}
    (hcode : sent.getLast? = some code) (hrests : RestsOn o h) :
    Justified h sent (Session.settled code o) := by
  cases o with
  | ok review => exact ⟨hcode, hrests⟩
  | error e => exact ⟨hcode, e, hrests, rfl⟩

/-- An answer that is taken is the answer to the call that was made last. -/
theorem History.restsOn_snoc (past : History h s.before) (hm : Move s) {id : Nat}
    (ha : s.action = .settle id o) (happlied : s.answer = .applied) :
    RestsOn o (h ++ [s]) := by
  refine ⟨id, since_snoc.mpr (.inl ⟨ha, happlied⟩), fun ht => ?_⟩
  have hs := Step.answers_of_applied ha happlied
  have hw := (past.waiting ht.of_append).awaited_of_applied past.books hm ht hs happlied
  have hcall : s.isCall = false := by simp [Step.isCall, ha]
  exact since_snoc.mpr (.inr ⟨hw.latest, hcall⟩)

theorem History.justified (past : History h d) : Justified h d.sent d.state := by
  induction past with
  | nil => trivial
  | @snoc h s past hm ih =>
      -- Only an edit, a submission, an answer that is taken and a clear set a new state.
      cases hm with
      | edit code hidle => trivial
      | call r hidle hcode => exact List.getLast?_concat
      | applied o hcall hexp =>
          exact justified_settled (ih.getLast?_of_submitting hexp.2)
            (History.restsOn_snoc past (.applied o hcall hexp) rfl rfl)
      | clear => trivial
      | _ => exact ih.snoc rfl

/--
**What is shown beside a code was answered for that code.**

At any time the code in the input is the one entered last since the last clear.  If a
review or a failure is shown beside it, that code was the last one sent, and what is
shown is how a call ended whose answer was the last thing that happened to the desk.  In
a timely record that call is the one made last.  The service was given one code for
each submission that was accepted, the one in the input at that moment.
-/
theorem state_justified (as : List Action) :
    (new.run as).1.state.code = entered (new.steps as) ∧
      (∀ code review, (new.run as).1.state = .success code review →
        (new.run as).1.sent.getLast? = some code ∧
          ∃ id, TookAnswer id (.ok review) (new.steps as) ∧
            (Timely (new.steps as) → Latest id (new.steps as))) ∧
      (∀ code message, (new.run as).1.state = .failure code message →
        (new.run as).1.sent.getLast? = some code ∧
          ∃ e, (∃ id, TookAnswer id (.error e) (new.steps as) ∧
            (Timely (new.steps as) → Latest id (new.steps as))) ∧ message = e.shown) ∧
      (new.run as).1.sent = submitted (new.steps as) := by
  have past := history_steps as
  have hj := past.justified
  refine ⟨past.code, ?_, ?_, past.sent⟩
  · intro code review hstate
    rw [hstate] at hj
    exact hj
  · intro code message hstate
    rw [hstate] at hj
    exact hj

/-- Two calls are answered, the first after it was cleared away. -/
def twoAnswers : List Action :=
  [.setCode "x", .submit, .clear, .setCode "y", .submit,
    .settle 0 (.error .unknown), .settle 1 (.error .emptyCode)]

theorem state_justified_two_answers :
    (new.run twoAnswers).1.state = .failure "y" (Failure.shown .emptyCode) ∧
      ∃ e, (∃ id, TookAnswer id (.error e) (new.steps twoAnswers) ∧
        Latest id (new.steps twoAnswers)) ∧ Failure.shown .emptyCode = e.shown := by
  have hstate : (new.run twoAnswers).1.state = .failure "y" (Failure.shown .emptyCode) := rfl
  obtain ⟨-, e, ⟨id, htook, hlatest⟩, hmessage⟩ :=
    (state_justified twoAnswers).2.2.1 _ _ hstate
  exact ⟨hstate, e, ⟨id, htook, hlatest (timely_of_advances_lt (by decide))⟩, hmessage⟩

/-- In an overdue run a review is shown that no call brought for the code beside it: it
answered the call that was cleared away, and that call had handed in other code. -/
theorem overdue_review_shown :
    let review : Review := ⟨"Looks fine", [], none, none, none, none⟩
    let as := overdue (UInt64.size - 2) ++ [.settle 0 (.ok review)]
    (new.run as).1.state = .success "new" review ∧
      submitted (new.steps as) = ["old", "new"] ∧
      ¬ ∃ id, TookAnswer id (.ok review) (new.steps as) ∧ Latest id (new.steps as) := by
  intro review as
  have hrun : (new.run as).1
      = ⟨⟨.success "new" review, 1⟩, [⟨1, ⟨1, ⟨"new", by decide⟩⟩⟩], ["old", "new"]⟩ := by
    rw [run_snoc, overdue_applied]
    rfl
  refine ⟨by rw [hrun]; rfl, by rw [← (history_steps as).sent, hrun], ?_⟩
  rintro ⟨id, ⟨older, t, later, hh, ⟨ht, -⟩, -⟩, hlatest⟩
  have hmem : t.action ∈ as := action_mem_of_mem_stepsOf (hh ▸ List.mem_append_cons_self)
  have hid : id = 0 := by
    rcases List.mem_append.mp hmem with hold | hnew
    · exact absurd ht (not_settle_of_mem_overdue hold _ _)
    · rw [ht] at hnew
      cases List.mem_singleton.mp hnew
      rfl
  have hlast : Latest 1 (new.steps as) := by
    rw [steps_append]
    exact since_snoc.mpr (.inr ⟨latest_overdue _, rfl⟩)
  cases hid.symm.trans (latest_unique hlatest hlast)

end ReviewDesk.Desk
