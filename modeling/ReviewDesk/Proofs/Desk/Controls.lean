/-
The controls say what can be done.

They are computed from what the session shows, with tests of their own for blank code
and for a request in flight, and the session makes its tests when it is asked.  That the
two agree is a matter of the state alone for submitting and editing.  For clearing it is
not: the control looks at the code only, and a review shown beside no code would be lost
to a desk that offers no clearing.  There is no such state, since only code that is not
blank gets past the input.

A desk brings back the tickets of its calls once each.  What is said here holds of any
session, whatever tickets it was brought, and a desk is a case of that.
-/
import ReviewDesk.Proofs.Desk.Step
import ReviewDesk.Proofs.Session.Code

namespace ReviewDesk.Desk

/-! ### The session of a desk -/

/-- What is done at a desk is done to its session, or not at all. -/
theorem Move.session {s : Step} (hm : Move s) :
    ∃ bs, s.after.session = (s.before.session.run bs).1 := by
  cases hm with
  | @edit d code hidle =>
      refine ⟨[.edit code], ?_⟩
      show _ = (d.session.edit code).1
      rw [Session.edit_accepted hidle]
  | @call d r hidle hcode =>
      have hb : Text.isBlank d.session.state.code = false := by
        have h := r.not_blank
        rwa [hcode] at h
      refine ⟨[.submit], ?_⟩
      show _ = d.session.submit.1
      rw [Session.submit_accepted hidle hb]
      rfl
  | @applied d id c o hcall hexp =>
      refine ⟨[.resolve c.ticket o], ?_⟩
      show _ = (d.session.resolve c.ticket o).1
      rw [Session.resolve_expected hexp]
      rfl
  | clear => exact ⟨[.clear], rfl⟩
  | _ => exact ⟨[], rfl⟩

theorem session_run (d : Desk) (as : List Action) :
    ∃ bs, (d.run as).1.session = (d.session.run bs).1 := by
  induction as generalizing d with
  | nil => exact ⟨[], rfl⟩
  | cons a as ih =>
      obtain ⟨bs, hbs⟩ := (move_step d a).session
      obtain ⟨cs, hcs⟩ := ih (d.step a).1
      have hstep : (d.step a).1.session = (d.session.run bs).1 := hbs
      refine ⟨bs ++ cs, ?_⟩
      rw [Session.run_append, ← hstep]
      exact hcs

/-! ### The controls -/

/-- The controls of the desk agree with what its session would do now. -/
structure ControlsAgree (d : Desk) : Prop where
  /-- A submission would get a ticket. -/
  submit : d.controls.submitEnabled = true ↔ ∃ ticket, d.session.submit.2 = some ticket
  /-- A submission at the desk would make a call. -/
  call : d.controls.submitEnabled = true ↔ ∃ id, d.submit.2 = .pending id
  /-- An edit would be accepted, whatever the text. -/
  edit : ∀ code, d.controls.inputEnabled = true ↔ (d.setCode code).2 = .edited true
  /-- If there is nothing in flight and nothing to clear, clearing would change nothing
  that is shown. -/
  clear : d.controls.clearEnabled = false → d.state.isSubmitting = false →
    d.state = .idle "" ∧ d.clear.1.state = d.state
  /-- Beyond the input there is code. -/
  code : (∀ code, d.state ≠ .idle code) →
    ∃ c ∈ d.state.code.toList, Text.isBlankChar c = false

variable {d : Desk}

theorem submitEnabled_iff :
    d.controls.submitEnabled = true ↔
      d.state.isSubmitting = false ∧ Text.isBlank d.state.code = false := by
  simp [controls, Controls.ofState]

theorem ticket_iff :
    (∃ ticket, d.session.submit.2 = some ticket) ↔
      d.state.isSubmitting = false ∧ Text.isBlank d.state.code = false := by
  constructor
  · rintro ⟨ticket, hticket⟩
    constructor
    · refine Bool.eq_false_iff.mpr fun hbusy => ?_
      rw [Session.submit_in_flight hbusy] at hticket
      cases hticket
    · refine Bool.eq_false_iff.mpr fun hb => ?_
      rw [Session.submit_blank hb] at hticket
      cases hticket
  · rintro ⟨hidle, hb⟩
    exact ⟨_, congrArg Prod.snd (Session.submit_accepted hidle hb)⟩

theorem call_iff :
    (∃ id, d.submit.2 = .pending id) ↔ ∃ ticket, d.session.submit.2 = some ticket := by
  unfold submit
  cases d.session.submit with
  | mk session ticket => cases ticket <;> simp

theorem edit_iff (code : String) :
    (d.setCode code).2 = .edited true ↔ d.state.isSubmitting = false := by
  unfold setCode
  by_cases hbusy : d.state.isSubmitting = true
  · rw [Session.edit_refused hbusy]
    simp [hbusy]
  · have hidle : d.state.isSubmitting = false := by simpa using hbusy
    rw [Session.edit_accepted hidle]
    simp [hidle]

theorem idle_of_not_clearEnabled (hcode : d.state.HasCode)
    (hclear : d.controls.clearEnabled = false) (hidle : d.state.isSubmitting = false) :
    d.state = .idle "" := by
  have hempty : d.state.code = "" := by
    simpa [controls, Controls.ofState, hidle] using hclear
  have hstate := hcode.idle_of_blank (by rw [hempty, Text.isBlank_empty])
  rwa [hempty] at hstate

theorem controlsAgree_of_hasCode (hcode : d.state.HasCode) : ControlsAgree d where
  submit := submitEnabled_iff.trans ticket_iff.symm
  call := submitEnabled_iff.trans (call_iff.trans ticket_iff).symm
  edit code := by
    rw [edit_iff]
    simp [controls, Controls.ofState]
  clear hclear hidle := by
    have hstate := idle_of_not_clearEnabled hcode hclear hidle
    exact ⟨hstate, hstate.symm⟩
  code hne := by
    have hb := hcode.not_blank hne
    simpa [Text.isBlank] using hb

/--
**The controls say what can be done.**

At every desk that can be reached, and at a desk around any session that can be reached,
with any tickets brought back to it: the submit control is enabled exactly if a
submission would be accepted, the input exactly if an edit would be, whatever the text;
where the clear control is not enabled and nothing is in flight, the input is empty and
nothing is shown, so that clearing would leave it so; and any state but that of the
input holds code that is not blank.
-/
theorem controls_say_what_can_be_done :
    (∀ as : List Action, ControlsAgree (new.run as).1) ∧
      (∀ (as : List Session.Action) (calls : List Call) (sent : List String),
        ControlsAgree ⟨(Session.new.run as).1, calls, sent⟩) := by
  have hsession (as : List Session.Action) : (Session.new.run as).1.state.HasCode :=
    Session.run_hasCode as trivial
  refine ⟨fun as => controlsAgree_of_hasCode ?_, fun as calls sent =>
    controlsAgree_of_hasCode (hsession as)⟩
  obtain ⟨bs, hbs⟩ := session_run new as
  unfold state
  rw [hbs]
  exact hsession bs

end ReviewDesk.Desk
