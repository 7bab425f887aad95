/-
The code reaches the wire as it was entered.

Between the input and the wire the code is copied twice, into the state that waits and into
the ticket, and then it is escaped.  The copies are the moves of the desk; the escaping is
the grammar's: what is written for a request is a document of one object with one member,
and of no other value (`Request.document_body_iff`), so no two codes share a body.

What happens to calls that are still out does not touch the input.  That a session at rest
expects no ticket is the one fact behind this: an answer for an earlier call is never taken
then, and nothing else could change the state.
-/
import ReviewDesk.Proofs.Desk.Controls
import ReviewDesk.Proofs.Json.OneTree
import ReviewDesk.Proofs.Json.Written
import ReviewDesk.Service.Exchange

namespace ReviewDesk

/-! ### The body of a request -/

theorem Request.exact_toJson (r : Request) : r.toJson.Exact := by
  refine .object ?_
  intro m hm
  rw [List.mem_singleton.mp hm]
  exact .text r.code

/-- The grammar reads the code out of the body, and can read nothing else. -/
theorem Request.document_body_iff (r : Request) (v : Json) :
    Json.Document v r.body ↔ v = .object [("code", .text r.code)] := by
  have hdocument : Json.Document r.toJson r.body := Json.document_compact r.exact_toJson
  constructor
  · intro h
    exact hdocument.unique h
  · rintro rfl
    exact hdocument

theorem Request.code_eq_of_body_eq {r r' : Request} (h : r.body = r'.body) :
    r.code = r'.code := by
  have hdocument := (r.document_body_iff _).mpr rfl
  rw [h, r'.document_body_iff] at hdocument
  simpa using hdocument

namespace Desk

/-! ### What happens while the code stands in the input -/

/-- Neither edits nor clears the input, and does not hand it in. -/
def Action.leavesInput : Action → Bool
  | .settle _ _ => true
  | .abandon _ => true
  | .display => true
  | _ => false

theorem not_expects_of_idle {s : Session} {t : Session.Ticket} (h : s.state.isSubmitting = false) :
    ¬ s.Expects t := by
  intro hexp
  rw [hexp.2] at h
  cases h

theorem Move.session_of_leavesInput {s : Step} (hm : Move s) (ha : s.action.leavesInput = true)
    (hidle : s.before.state.isSubmitting = false) : s.after.session = s.before.session := by
  cases hm with
  | applied o hcall hexp => exact absurd hexp (not_expects_of_idle hidle)
  | superseded o hcall hexp => rfl
  | settleGone o hcall => rfl
  | abandoned hcall => rfl
  | abandonGone hcall => rfl
  | display => rfl
  | _ => cases ha

theorem run_session_of_leavesInput {d : Desk} {as : List Action}
    (has : ∀ a ∈ as, a.leavesInput = true) (hidle : d.state.isSubmitting = false) :
    (d.run as).1.session = d.session := by
  induction as generalizing d with
  | nil => rfl
  | cons a as ih =>
      have hstep : (d.step a).1.session = d.session :=
        (move_step d a).session_of_leavesInput (has a (by simp)) hidle
      have hidle' : (d.step a).1.state.isSubmitting = false := by
        rw [state, hstep]
        exact hidle
      show ((d.step a).1.run as).1.session = d.session
      rw [ih (fun b hb => has b (by simp [hb])) hidle', hstep]

/-- Code that the input took is still there when nothing but calls was dealt with. -/
theorem run_state_of_edited {d : Desk} {c : String} {between : List Action}
    (haccepted : (d.setCode c).2 = .edited true) (hbetween : ∀ a ∈ between, a.leavesInput = true) :
    ((d.setCode c).1.run between).1.state = .idle c := by
  have hrest : d.session.state.isSubmitting = false := (edit_iff c).mp haccepted
  have hentered : (d.setCode c).1.state = .idle c := by
    unfold setCode
    rw [Session.edit_accepted hrest]
    rfl
  have hidle : (d.setCode c).1.state.isSubmitting = false := by
    rw [hentered]
    rfl
  rw [state, run_session_of_leavesInput hbetween hidle, ← hentered]
  rfl

/-! ### The call that is made -/

section

variable {d : Desk} {c : String}

theorem submit_calls (hstate : d.session.state = .idle c) (hc : Text.isBlank c = false) :
    ∃ call : Call, d.submit.2 = .pending call.id ∧ d.submit.1.calls = d.calls ++ [call] ∧
      call.ticket.request.code = c := by
  have hidle : d.session.state.isSubmitting = false := by
    rw [hstate]
    rfl
  have hcode : d.session.state.code = c := by
    rw [hstate]
    rfl
  have hblank : Text.isBlank d.session.state.code = false := by
    rw [hcode]
    exact hc
  refine ⟨⟨d.sent.length, ⟨d.session.generation + 1, ⟨d.session.state.code, hblank⟩⟩⟩, ?_, ?_,
    hcode⟩
  · simp only [submit, Session.submit_accepted hidle hblank]
  · simp only [submit, Session.submit_accepted hidle hblank]

theorem submit_ignored (hstate : d.session.state = .idle c) (hc : Text.isBlank c = true) :
    d.submit = (d, .ignored) := by
  have hblank : Text.isBlank d.session.state.code = true := by
    rw [hstate]
    exact hc
  simp only [submit, Session.submit_blank hblank]

end

/-- Code that the input took is what the next submission sends, character by character: the
body of the request is a JSON text of the object with that code as its one member, and of
nothing else.  Different codes have different bodies, and of blank code no request is made. -/
theorem code_reaches_wire (url : Url) {d d' : Desk} {c : String} {between : List Action}
    (haccepted : (d.setCode c).2 = .edited true) (hbetween : ∀ a ∈ between, a.leavesInput = true)
    (hd' : d' = ((d.setCode c).1.run between).1) :
    (Text.isBlank c = false →
      ∃ call : Call, d'.submit.2 = .pending call.id ∧ d'.submit.1.calls = d'.calls ++ [call] ∧
        ∀ v, Json.Document v (Service.reviewRequest url call.ticket.request).body ↔
          v = .object [("code", .text c)]) ∧
    (Text.isBlank c = true → Request.ofCode? c = none ∧ d'.submit = (d', .ignored)) ∧
    ∀ r r' : Request, r.code ≠ r'.code →
      (Service.reviewRequest url r).body ≠ (Service.reviewRequest url r').body := by
  have hstate : d'.session.state = .idle c := by
    rw [hd']
    exact run_state_of_edited haccepted hbetween
  refine ⟨?_, ?_, ?_⟩
  · intro hc
    obtain ⟨call, hanswer, hcalls, hcode⟩ := submit_calls hstate hc
    refine ⟨call, hanswer, hcalls, ?_⟩
    intro v
    rw [← hcode]
    exact call.ticket.request.document_body_iff v
  · intro hc
    exact ⟨Request.ofCode?_of_blank hc, submit_ignored hstate hc⟩
  · intro r r' hne heq
    exact hne (Request.code_eq_of_body_eq heq)

/-- A desk whose input was cleared while a call was out. -/
def clearedDesk : Desk :=
  (new.run [.setCode "x", .submit, .clear]).1

/-- Code of which nearly every character has to be escaped, or is white space. -/
def awkwardCode : String := " \"\\\t\u0001\u2028😀\n"

/-- The code is handed in after the answer to an earlier call came. -/
theorem code_reaches_wire_after_late_answer :
    clearedDesk.calls.length = 1 ∧ ∀ url, ∃ call : Call,
      ((clearedDesk.setCode awkwardCode).1.run
        [.settle 0 (.error (.response 500)), .display]).1.submit.2 = .pending call.id ∧
      ∀ v, Json.Document v (Service.reviewRequest url call.ticket.request).body ↔
        v = .object [("code", .text awkwardCode)] := by
  have haccepted : (clearedDesk.setCode awkwardCode).2 = .edited true := rfl
  have hbetween : ∀ a ∈ [Action.settle 0 (.error (.response 500)), .display],
      a.leavesInput = true := by decide
  refine ⟨by decide, ?_⟩
  intro url
  obtain ⟨hsent, -, -⟩ := code_reaches_wire url haccepted hbetween rfl
  obtain ⟨call, hanswer, -, hdocument⟩ := hsent (by decide)
  exact ⟨call, hanswer, hdocument⟩

end Desk

end ReviewDesk
