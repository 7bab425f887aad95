/-
What a step at the desk does.

`Move` lists every step there is: what was done, under which condition, what it
answered and what it left.  `move_step` says that the desk takes no other.  All that is
shown of runs goes by cases on `Move`, so nothing below opens the operations of the
desk or of its session again.

What is said of runs of machines in general holds of desks, with the moves as the steps
that there are; `History h d` says that the steps `h`, oldest first, led from a new desk to
`d`.
-/
import ReviewDesk.Desk
import ReviewDesk.Proofs.Session.Basic
import ReviewDesk.Proofs.Run

namespace ReviewDesk.Desk

/-- One step of a run of a desk. -/
abbrev Step := ReviewDesk.Step Desk Action Answer

/-- The step that an action leads to. -/
def stepOf (d : Desk) (a : Action) : Step :=
  ReviewDesk.stepOf step d a

/-- The steps of a run, oldest first. -/
def steps (d : Desk) (as : List Action) : List Step :=
  stepsOf step d as

@[simp] theorem steps_nil (d : Desk) : d.steps [] = [] := rfl

theorem steps_cons (d : Desk) (a : Action) (as : List Action) :
    d.steps (a :: as) = d.stepOf a :: (d.step a).1.steps as := rfl

theorem steps_append (d : Desk) (as bs : List Action) :
    d.steps (as ++ bs) = d.steps as ++ (d.run as).1.steps bs :=
  stepsOf_append step d as bs

theorem run_append (d : Desk) (as bs : List Action) :
    (d.run (as ++ bs)).1 = ((d.run as).1.run bs).1 :=
  runOf_append step d as bs

theorem run_snoc (d : Desk) (as : List Action) (a : Action) :
    (d.run (as ++ [a])).1 = ((d.run as).1.step a).1 :=
  run_append d as [a]

/-! ### The calls that are out -/

theorem mem_without {d : Desk} {id : Nat} {c : Call} :
    c ∈ d.without id ↔ c ∈ d.calls ∧ c.id ≠ id := by
  simp [without]

theorem call?_eq_some {d : Desk} {id : Nat} {c : Call} (h : d.call? id = some c) :
    c ∈ d.calls ∧ c.id = id := by
  have hid := List.find?_some h
  exact ⟨List.mem_of_find?_eq_some h, by simpa using hid⟩

theorem call?_eq_none {d : Desk} {id : Nat} :
    d.call? id = none ↔ ∀ c ∈ d.calls, c.id ≠ id := by
  simp [call?]

theorem call?_without {d : Desk} {session : Session} {sent : List String} {i j : Nat} :
    call? ⟨session, d.without i, sent⟩ j = if i = j then none else d.call? j := by
  unfold call? without
  rw [List.find?_filter]
  by_cases hij : i = j
  · subst hij
    simp
  · rw [if_neg hij]
    congr 1
    funext c
    grind

theorem call?_append {d : Desk} {session : Session} {sent : List String} {c : Call} {j : Nat} :
    call? ⟨session, d.calls ++ [c], sent⟩ j
      = (d.call? j).or (if c.id = j then some c else none) := by
  unfold call?
  rw [List.find?_append]
  by_cases hc : c.id = j <;> simp [hc]

theorem abandon_frame (d : Desk) (id : Nat) :
    (d.abandon id).1.session = d.session ∧ (d.abandon id).1.sent = d.sent ∧
      ∀ j, (d.abandon id).1.call? j = if id = j then none else d.call? j := by
  unfold abandon
  cases hcall : d.call? id with
  | none =>
      refine ⟨rfl, rfl, fun j => ?_⟩
      by_cases hj : id = j
      · rw [if_pos hj, ← hj]
        exact hcall
      · rw [if_neg hj]
  | some c => exact ⟨rfl, rfl, fun j => call?_without⟩

/-- The call that an action is about. -/
def Action.call? : Action → Option Nat
  | .settle id _ => some id
  | .abandon id => some id
  | _ => none

/-! ### Moves -/

/-- The steps that the desk takes. -/
inductive Move : Step → Prop
  | edit {d : Desk} (code : String) (hidle : d.state.isSubmitting = false) :
      Move ⟨d, .setCode code, .edited true,
        ⟨⟨.idle code, d.session.generation⟩, d.calls, d.sent⟩⟩
  | editRefused {d : Desk} (code : String) (hbusy : d.state.isSubmitting = true) :
      Move ⟨d, .setCode code, .edited false, d⟩
  | call {d : Desk} (r : Request) (hidle : d.state.isSubmitting = false)
      (hcode : r.code = d.state.code) :
      Move ⟨d, .submit, .pending d.sent.length,
        ⟨⟨.submitting d.state.code, d.session.generation + 1⟩,
          d.calls ++ [⟨d.sent.length, ⟨d.session.generation + 1, r⟩⟩],
          d.sent ++ [d.state.code]⟩⟩
  | ignored {d : Desk}
      (h : d.state.isSubmitting = true ∨ Text.isBlank d.state.code = true) :
      Move ⟨d, .submit, .ignored, d⟩
  | applied {d : Desk} {id : Nat} {c : Call} (o : Outcome) (hcall : d.call? id = some c)
      (hexp : d.session.Expects c.ticket) :
      Move ⟨d, .settle id o, .applied,
        ⟨⟨Session.settled d.state.code o, d.session.generation⟩, d.without id, d.sent⟩⟩
  | superseded {d : Desk} {id : Nat} {c : Call} (o : Outcome)
      (hcall : d.call? id = some c) (hexp : ¬ d.session.Expects c.ticket) :
      Move ⟨d, .settle id o, .superseded, ⟨d.session, d.without id, d.sent⟩⟩
  | settleGone {d : Desk} {id : Nat} (o : Outcome) (hcall : d.call? id = none) :
      Move ⟨d, .settle id o, .noCall, d⟩
  | abandoned {d : Desk} {id : Nat} {c : Call} (hcall : d.call? id = some c) :
      Move ⟨d, .abandon id, .done, ⟨d.session, d.without id, d.sent⟩⟩
  | abandonGone {d : Desk} {id : Nat} (hcall : d.call? id = none) :
      Move ⟨d, .abandon id, .noCall, d⟩
  | clear {d : Desk} :
      Move ⟨d, .clear, .done, ⟨⟨.empty, d.session.generation + 1⟩, d.calls, d.sent⟩⟩
  | display {d : Desk} : Move ⟨d, .display, .shown d.display, d⟩

/-- What is done to a call leaves all else as it was, unless its answer is taken. -/
theorem Move.frame {s : Step} (hm : Move s) {id : Nat} (ha : s.action.call? = some id)
    (hn : s.answer ≠ .applied) :
    s.after.session = s.before.session ∧ s.after.sent = s.before.sent ∧
      ∀ j, id ≠ j → s.after.call? j = s.before.call? j := by
  cases hm with
  | superseded o hcall hexp =>
      cases ha
      exact ⟨rfl, rfl, fun j hj => by rw [call?_without, if_neg hj]⟩
  | abandoned hcall =>
      cases ha
      exact ⟨rfl, rfl, fun j hj => by rw [call?_without, if_neg hj]⟩
  | applied o hcall hexp => exact absurd rfl hn
  | settleGone o hcall => exact ⟨rfl, rfl, fun _ _ => rfl⟩
  | abandonGone hcall => exact ⟨rfl, rfl, fun _ _ => rfl⟩
  | _ => cases ha

theorem move_submit (d : Desk) : Move (d.stepOf .submit) := by
  by_cases hbusy : d.state.isSubmitting = true
  · refine move_of_eq ?_ (.ignored (.inl hbusy))
    simp [step, submit, Session.submit_in_flight hbusy]
  · have hidle : d.state.isSubmitting = false := by simpa using hbusy
    by_cases hb : Text.isBlank d.state.code = true
    · refine move_of_eq ?_ (.ignored (.inr hb))
      simp [step, submit, Session.submit_blank hb]
    · have hb' : Text.isBlank d.state.code = false := by simpa using hb
      refine move_of_eq ?_ (.call ⟨d.state.code, hb'⟩ hidle rfl)
      simp only [step, submit, Session.submit_accepted hidle hb', state]

theorem settle_applied {d : Desk} {id : Nat} {c : Call} (hcall : d.call? id = some c)
    (hexp : d.session.Expects c.ticket) (o : Outcome) :
    d.settle id o
      = (⟨⟨Session.settled d.state.code o, d.session.generation⟩, d.without id, d.sent⟩,
        .applied) := by
  simp only [settle, hcall, Session.resolve_expected hexp, state]

/-- The desk takes from an outcome only the state that it leads to. -/
theorem settle_congr {o o' : Outcome}
    (h : ∀ code, Session.settled code o = Session.settled code o') (d : Desk) (id : Nat) :
    d.settle id o = d.settle id o' := by
  cases hcall : d.call? id with
  | none => simp [settle, hcall]
  | some c =>
      by_cases hexp : d.session.Expects c.ticket
      · rw [settle_applied hcall hexp, settle_applied hcall hexp, h]
      · simp only [settle, hcall, Session.resolve_unexpected hexp]

theorem move_settle (d : Desk) (id : Nat) (o : Outcome) : Move (d.stepOf (.settle id o)) := by
  cases hcall : d.call? id with
  | none =>
      refine move_of_eq ?_ (.settleGone o hcall)
      simp [step, settle, hcall]
  | some c =>
      by_cases hexp : d.session.Expects c.ticket
      · exact move_of_eq (settle_applied hcall hexp o) (.applied o hcall hexp)
      · refine move_of_eq ?_ (.superseded o hcall hexp)
        simp only [step, settle, hcall, Session.resolve_unexpected hexp]

/-- The desk takes no other step. -/
theorem move_step (d : Desk) (a : Action) : Move (d.stepOf a) := by
  cases a with
  | setCode code =>
      by_cases hbusy : d.state.isSubmitting = true
      · refine move_of_eq ?_ (.editRefused code hbusy)
        simp [step, setCode, Session.edit_refused hbusy]
      · have hidle : d.state.isSubmitting = false := by simpa using hbusy
        refine move_of_eq ?_ (.edit code hidle)
        simp [step, setCode, Session.edit_accepted hidle]
  | submit => exact move_submit d
  | settle id o => exact move_settle d id o
  | abandon id =>
      cases hcall : d.call? id with
      | none =>
          refine move_of_eq ?_ (.abandonGone hcall)
          simp [step, abandon, hcall]
      | some c =>
          refine move_of_eq ?_ (.abandoned hcall)
          simp [step, abandon, hcall]
  | clear => exact .clear
  | display => exact .display

/-! ### Histories -/

/-- The steps, oldest first, that led from a new desk to this one. -/
abbrev History : List Step → Desk → Prop :=
  ReviewDesk.History Move new

theorem history_steps (as : List Action) : History (new.steps as) (new.run as).1 :=
  ReviewDesk.History.nil.append move_step as

theorem History.before {h older rest : List Step} {d : Desk} {s : Step} (past : History h d)
    (hh : h = older ++ s :: rest) : History older s.before ∧ Move s :=
  ReviewDesk.History.before past hh

end ReviewDesk.Desk
