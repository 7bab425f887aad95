/-
A desk with the service behind it.

The desk takes any outcome for a call.  With the service behind it the outcome is what the
end of an exchange means, and the exchange is that of the call's own request.  `serve` is
such a desk: a person does what there is to do, exchanges end in any order, and nothing
else happens.  It takes no step that the desk does not take (`serve_eq_step`), so all that
is known of moves and histories is known of it.

Two things are said of these runs for later use.  A review is shown because an outcome
brought it, so one that is shown was once the body of a reply (`served_review`).  And code
that is handed in at a desk with nothing in flight ends in what its exchange ended in
(`served_submission`), whatever calls are still out.
-/
import ReviewDesk.Proofs.Desk.Books
import ReviewDesk.Proofs.Service.Exchange

namespace ReviewDesk

/-- What comes of a call whose exchange ended like this. -/
def Call.outcome (url : Url) (c : Call) (e : Http.Ending) : Outcome :=
  Service.review (Service.reviewRequest url c.ticket.request) e

namespace Desk

/-- What can happen at a desk with the service behind it. -/
inductive Event where
  | setCode (code : String)
  | submit
  /-- The exchange of a call ended. -/
  | ended (id : Nat) (ending : Http.Ending)
  | abandon (id : Nat)
  | clear
  | display

/-- What an event does to a desk whose calls go to this URL. -/
def serve (url : Url) (d : Desk) : Event → Desk × Answer
  | .setCode code => d.setCode code
  | .submit => d.submit
  | .ended id ending =>
    match d.call? id with
    | none => (d, .noCall)
    | some c => d.settle id (c.outcome url ending)
  | .abandon id => d.abandon id
  | .clear => d.clear
  | .display => (d, .shown d.display)

/-- The answers to a sequence of events, and the desk after them. -/
def served (url : Url) (d : Desk) (evs : List Event) : Desk × List Answer :=
  runOf (serve url) d evs

variable {url : Url} {d : Desk} {r : Review}

/-! ### The desk it is -/

theorem serve_ended {id : Nat} {c : Call} (h : d.call? id = some c) (e : Http.Ending) :
    d.serve url (.ended id e) = d.settle id (c.outcome url e) := by
  simp only [serve, h]

theorem serve_ended_none {id : Nat} (h : d.call? id = none) (e : Http.Ending) :
    d.serve url (.ended id e) = (d, .noCall) := by
  simp only [serve, h]

/-- An event is a step of the desk, and if that is an answer to a call then the end of an
exchange brought it. -/
theorem serve_eq_step (url : Url) (d : Desk) (ev : Event) :
    ∃ a, d.serve url ev = d.step a ∧
      ∀ id o, a = .settle id o → d.call? id = none ∨
        ∃ c e, ev = .ended id e ∧ o = Call.outcome url c e := by
  cases ev with
  | setCode code => exact ⟨.setCode code, rfl, by intro id o h; cases h⟩
  | submit => exact ⟨.submit, rfl, by intro id o h; cases h⟩
  | abandon id => exact ⟨.abandon id, rfl, by intro id o h; cases h⟩
  | clear => exact ⟨.clear, rfl, by intro id o h; cases h⟩
  | display => exact ⟨.display, rfl, by intro id o h; cases h⟩
  | ended id e =>
      cases hcall : d.call? id with
      | none =>
          refine ⟨.settle id (.error .unknown), ?_, ?_⟩
          · rw [serve_ended_none hcall]
            simp [step, settle, hcall]
          · intro id' o h
            cases h
            exact Or.inl hcall
      | some c =>
          refine ⟨.settle id (c.outcome url e), serve_ended hcall e, ?_⟩
          intro id' o h
          cases h
          exact Or.inr ⟨c, e, rfl, rfl⟩

theorem served_cons (d : Desk) (ev : Event) (evs : List Event) :
    (d.served url (ev :: evs)).1 = ((d.serve url ev).1.served url evs).1 := rfl

/-- A review that is shown after a step was shown before it, or the step was its answer. -/
theorem Move.review {s : Step} (hm : Move s) (h : s.after.state.review? = some r) :
    s.before.state.review? = some r ∨
      ∃ id, s.action = .settle id (.ok r) ∧ s.before.call? id ≠ none := by
  cases hm with
  | @applied d id c o hcall hexp =>
      right
      cases o with
      | ok review =>
          have hreview : review = r := Option.some.inj h
          rw [hreview]
          exact ⟨id, rfl, by simp [hcall]⟩
      | error f => cases h
  | edit code hidle => cases h
  | call r hidle hcode => cases h
  | clear => cases h
  | _ => exact Or.inl h

theorem serve_review {ev : Event} (h : (d.serve url ev).1.state.review? = some r) :
    d.state.review? = some r ∨
      ∃ id e request, ev = .ended id e ∧ Service.review request e = .ok r := by
  obtain ⟨a, ha, hsettle⟩ := serve_eq_step url d ev
  rw [ha] at h
  rcases (move_step d a).review h with hbefore | ⟨id, haction, hcall⟩
  · exact Or.inl hbefore
  · rcases hsettle id (.ok r) haction with hnone | ⟨c, e, rfl, ho⟩
    · exact absurd hnone hcall
    · exact Or.inr ⟨id, e, _, rfl, ho.symm⟩

/-- A review that is shown was shown from the start or brought by one of the exchanges. -/
theorem served_review {evs : List Event} (h : (d.served url evs).1.state.review? = some r) :
    d.state.review? = some r ∨
      ∃ id e request, Event.ended id e ∈ evs ∧ Service.review request e = .ok r := by
  induction evs generalizing d with
  | nil => exact Or.inl h
  | cons ev evs ih =>
      rw [served_cons] at h
      rcases ih h with hlater | ⟨id, e, request, hmem, hreview⟩
      · rcases serve_review hlater with hbefore | ⟨id, e, request, rfl, hreview⟩
        · exact Or.inl hbefore
        · exact Or.inr ⟨id, e, request, by simp, hreview⟩
      · exact Or.inr ⟨id, e, request, by simp [hmem], hreview⟩

/-! ### Handing in code -/

/-- The next number is not that of a call that is out. -/
theorem History.call?_next {h : List Step} (past : History h d) :
    d.call? d.sent.length = none := by
  rw [call?_eq_none]
  intro c hc hid
  have hlt := past.books.lt_of_out ((past.books.out c.id).mp ⟨c, hc, rfl⟩)
  omega

/-- Code is entered and handed in, and then the exchange ends. -/
def submission (d : Desk) (code : String) (e : Http.Ending) : List Event :=
  [.setCode code, .submit, .ended d.sent.length e]

theorem served_submission (url : Url) {h : List Step} (past : History h d)
    (hidle : d.state.isSubmitting = false) (request : Request) (e : Http.Ending) :
    (d.served url (d.submission request.code e)).1.state =
      Session.settled request.code
        (Service.review (Service.reviewRequest url request) e) := by
  -- The desk while the exchange takes place, and the call that waits for it.
  let c : Call := ⟨d.sent.length, ⟨d.session.generation + 1, request⟩⟩
  let busy : Desk := ⟨⟨.submitting request.code, d.session.generation + 1⟩,
    d.calls ++ [c], d.sent ++ [request.code]⟩
  have hedit : (d.serve url (.setCode request.code)).1
      = ⟨⟨.idle request.code, d.session.generation⟩, d.calls, d.sent⟩ := by
    simp only [serve, setCode, Session.edit_accepted hidle]
  have hsubmit : (serve url ⟨⟨.idle request.code, d.session.generation⟩, d.calls, d.sent⟩
      .submit).1 = busy := by
    have haccepted := Session.submit_accepted
      (s := ⟨.idle request.code, d.session.generation⟩) rfl request.not_blank
    simp only [serve, submit, haccepted]
    rfl
  have hcall : busy.call? d.sent.length = some c := by
    show call? ⟨_, d.calls ++ [c], _⟩ d.sent.length = some c
    rw [call?_append, past.call?_next]
    simp [c]
  have hexp : busy.session.Expects c.ticket := ⟨rfl, rfl⟩
  unfold submission
  rw [served_cons, hedit, served_cons, hsubmit, served_cons, serve_ended hcall,
    settle_applied hcall hexp]
  rfl

end Desk

end ReviewDesk
