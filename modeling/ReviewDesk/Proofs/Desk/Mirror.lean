/-
Two desks that do the same.

`Mirrors` says that a desk does what another one does although more has happened to it:
its generation is further on, it has sent codes before, and it may hold calls that the
other does not know.  The amounts stay the same from step to step, so one relation
covers both places it is needed.  A desk that was cleared mirrors a new one, with all
calls before the clear left out of account; and a desk mirrors itself without some of
what was done to calls that no longer matter, where nothing is further on.

There is one lemma for each operation and one for a step.  They say nothing about an
answer to a call that is left out of account.  What such an answer does is not a matter
of the two desks but of the record.
-/
import ReviewDesk.Proofs.Desk.Step
import ReviewDesk.Proofs.Session.Generation

namespace ReviewDesk.Desk

/-! ### Numbers further on -/

/-- An action when `n` calls more are counted. -/
def Action.later (n : Nat) : Action → Action
  | .settle id o => .settle (n + id) o
  | .abandon id => .abandon (n + id)
  | a => a

/-- An answer when `n` calls more are counted. -/
def Answer.later (n : Nat) : Answer → Answer
  | .pending id => .pending (n + id)
  | answer => answer

/-- A call when `n` calls more are counted and the generation is `g` further on. -/
def Call.later (g : UInt64) (n : Nat) (c : Call) : Call :=
  ⟨n + c.id, c.ticket.later g⟩

@[simp] theorem Action.later_zero (a : Action) : a.later 0 = a := by
  cases a <;> simp [later]

@[simp] theorem Answer.later_zero (answer : Answer) : answer.later 0 = answer := by
  cases answer <;> simp [later]

@[simp] theorem Call.later_zero (c : Call) : Call.later 0 0 c = c := by
  simp [Call.later, Session.Ticket.later]

/-! ### The relation -/

/-- The desk `e` does what `e'` does, from `g` generations further on and after sending
`base`.  Calls that are `old`, in the numbers of `e'`, are left out of account. -/
structure Mirrors (g : UInt64) (base : List String) (old : Nat → Bool) (e e' : Desk) :
    Prop where
  session : e.session = e'.session.later g
  sent : e.sent = base ++ e'.sent
  calls : ∀ id, old id = false →
    e.call? (base.length + id) = (e'.call? id).map (Call.later g base.length)

namespace Mirrors

variable {g : UInt64} {base : List String} {old old' : Nat → Bool} {e e' : Desk}

/-- Nothing is further on. -/
theorem zero_iff :
    Mirrors 0 [] old e e' ↔
      e.session = e'.session ∧ e.sent = e'.sent ∧
        ∀ id, old id = false → e.call? id = e'.call? id := by
  have hlater : Call.later 0 0 = id := funext Call.later_zero
  constructor
  · intro mir
    exact ⟨by simpa using mir.session, mir.sent, by simpa [hlater] using mir.calls⟩
  · rintro ⟨hsession, hsent, hcalls⟩
    exact ⟨by simpa using hsession, hsent, by simpa [hlater] using hcalls⟩

theorem mono (mir : Mirrors g base old e e') (hold : ∀ id, old id = true → old' id = true) :
    Mirrors g base old' e e' := by
  refine ⟨mir.session, mir.sent, fun id hid => mir.calls id ?_⟩
  refine Bool.eq_false_iff.mpr fun h => ?_
  rw [hold id h] at hid
  cases hid

theorem state_eq (mir : Mirrors g base old e e') : e.state = e'.state := by
  unfold state
  rw [mir.session, Session.later_state]

theorem display_eq (mir : Mirrors g base old e e') : e.display = e'.display :=
  congrArg Display.Panel.ofState mir.state_eq

theorem controls_eq (mir : Mirrors g base old e e') : e.controls = e'.controls :=
  congrArg Controls.ofState mir.state_eq

/-! ### The operations -/

/-- Both desks did something to their session and nothing to their calls. -/
theorem of_session (mir : Mirrors g base old e e') (session : Session) :
    Mirrors g base old ⟨session.later g, e.calls, e.sent⟩ ⟨session, e'.calls, e'.sent⟩ :=
  ⟨rfl, mir.sent, mir.calls⟩

/-- Both desks have lost the same call. -/
theorem without (mir : Mirrors g base old e e') (session : Session) (id : Nat) :
    Mirrors g base old ⟨session.later g, e.without (base.length + id), e.sent⟩
      ⟨session, e'.without id, e'.sent⟩ := by
  refine ⟨rfl, mir.sent, fun j hj => ?_⟩
  rw [call?_without, call?_without, mir.calls j hj]
  by_cases hid : id = j
  · simp [hid]
  · simp [hid]

/-- Both desks have made a call. -/
theorem call (mir : Mirrors g base old e e') (session : Session) (t : Session.Ticket) :
    Mirrors g base old
      ⟨session.later g, e.calls ++ [⟨e.sent.length, t.later g⟩], e.sent ++ [t.request.code]⟩
      ⟨session, e'.calls ++ [⟨e'.sent.length, t⟩], e'.sent ++ [t.request.code]⟩ := by
  refine ⟨rfl, by simp [mir.sent], fun j hj => ?_⟩
  rw [call?_append, call?_append, mir.calls j hj, mir.sent, List.length_append]
  by_cases hid : e'.sent.length = j
  · cases e'.call? j <;> simp [hid, Call.later]
  · simp [hid]

theorem setCode (mir : Mirrors g base old e e') (code : String) :
    Mirrors g base old (e.setCode code).1 (e'.setCode code).1 ∧
      (e.setCode code).2 = (e'.setCode code).2.later base.length := by
  unfold Desk.setCode
  rw [mir.session, Session.edit_later]
  exact ⟨mir.of_session _, rfl⟩

theorem submit (mir : Mirrors g base old e e') :
    Mirrors g base old e.submit.1 e'.submit.1 ∧
      e.submit.2 = e'.submit.2.later base.length := by
  unfold Desk.submit
  rw [mir.session, Session.submit_later]
  cases e'.session.submit with
  | mk session ticket =>
      cases ticket with
      | none => exact ⟨mir, rfl⟩
      | some t => exact ⟨mir.call session t, by simp [Answer.later, mir.sent]⟩

theorem settle (mir : Mirrors g base old e e') {id : Nat} (hid : old id = false)
    (o : Outcome) :
    Mirrors g base old (e.settle (base.length + id) o).1 (e'.settle id o).1 ∧
      (e.settle (base.length + id) o).2 = (e'.settle id o).2.later base.length := by
  unfold Desk.settle
  rw [mir.calls id hid]
  cases e'.call? id with
  | none => exact ⟨mir, rfl⟩
  | some c =>
      simp only [Option.map_some, Call.later]
      rw [mir.session, Session.resolve_later]
      cases e'.session.resolve c.ticket o with
      | mk session resolution =>
          cases resolution with
          | applied => exact ⟨mir.without session id, rfl⟩
          | stale => exact ⟨mir.without session id, rfl⟩

/-- One may walk away from an old call, too. -/
theorem abandon (mir : Mirrors g base old e e') (id : Nat) :
    Mirrors g base old (e.abandon (base.length + id)).1 (e'.abandon id).1 := by
  obtain ⟨hsession, hsent, hcalls⟩ := abandon_frame e (base.length + id)
  obtain ⟨hsession', hsent', hcalls'⟩ := abandon_frame e' id
  refine ⟨?_, ?_, fun j hj => ?_⟩
  · rw [hsession, hsession', mir.session]
  · rw [hsent, hsent', mir.sent]
  · rw [hcalls, hcalls', mir.calls j hj]
    by_cases hid : id = j
    · simp [hid]
    · simp [hid]

theorem abandon_answer (mir : Mirrors g base old e e') {id : Nat} (hid : old id = false) :
    (e.abandon (base.length + id)).2 = (e'.abandon id).2.later base.length := by
  unfold Desk.abandon
  rw [mir.calls id hid]
  cases e'.call? id with
  | none => rfl
  | some c => rfl

theorem clear (mir : Mirrors g base old e e') :
    Mirrors g base old e.clear.1 e'.clear.1 := by
  unfold Desk.clear
  rw [mir.session, Session.clear_later]
  exact mir.of_session _

/-- The same action at both desks keeps them as they are to each other. -/
theorem step (mir : Mirrors g base old e e') {a : Action}
    (hold : ∀ id o, a = .settle id o → old id = false) :
    Mirrors g base old (e.step (a.later base.length)).1 (e'.step a).1 := by
  cases a with
  | setCode code => exact (mir.setCode code).1
  | submit => exact mir.submit.1
  | settle id o => exact (mir.settle (hold id o rfl) o).1
  | abandon id => exact mir.abandon id
  | clear => exact mir.clear
  | display => exact mir

/-- The same action is answered the same at both desks. -/
theorem step_answer (mir : Mirrors g base old e e') {a : Action}
    (hold : ∀ id, a.call? = some id → old id = false) :
    (e.step (a.later base.length)).2 = (e'.step a).2.later base.length := by
  cases a with
  | setCode code => exact (mir.setCode code).2
  | submit => exact mir.submit.2
  | settle id o => exact (mir.settle (hold id rfl) o).2
  | abandon id => exact mir.abandon_answer (hold id rfl)
  | clear => rfl
  | display => exact congrArg Answer.shown mir.display_eq

end Mirrors

end ReviewDesk.Desk
