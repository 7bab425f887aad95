/-
Only code with something in it gets past the input.

A request cannot be made of blank code, and while a request is in flight the code stays
what it is; so whatever state follows a submission holds code that is not blank.  Any
text may stand in the input itself.
-/
import ReviewDesk.Proofs.Session.Step

namespace ReviewDesk.Session

namespace State

/-- The code is not blank, unless it stands in the input. -/
def HasCode : State → Prop
  | .idle _ => True
  | .submitting code => Text.isBlank code = false
  | .success code _ => Text.isBlank code = false
  | .failure code _ => Text.isBlank code = false

theorem HasCode.not_blank {st : State} (h : st.HasCode) (hne : ∀ code, st ≠ .idle code) :
    Text.isBlank st.code = false := by
  cases st with
  | idle code => exact absurd rfl (hne code)
  | submitting code => exact h
  | success code review => exact h
  | failure code message => exact h

theorem HasCode.idle_of_blank {st : State} (h : st.HasCode)
    (hb : Text.isBlank st.code = true) : st = .idle st.code := by
  cases st with
  | idle code => rfl
  | _ => simp_all [HasCode, code]

end State

theorem hasCode_settled {code : String} (h : Text.isBlank code = false) (o : Outcome) :
    (settled code o).HasCode := by
  cases o with
  | ok review => exact h
  | error failure => exact h

theorem Move.hasCode {st : Step} (hm : Move st) (h : st.before.state.HasCode) :
    st.after.state.HasCode := by
  cases hm with
  | edit code hidle => trivial
  | submit r hidle => exact r.not_blank
  | @applied s t o hexp =>
      refine hasCode_settled (h.not_blank fun code hcode => ?_) o
      have hbusy : s.state.isSubmitting = true := hexp.2
      rw [hcode] at hbusy
      cases hbusy
  | clear => trivial
  | _ => exact h

theorem run_hasCode {s : Session} (as : List Action) (h : s.state.HasCode) :
    (s.run as).1.state.HasCode := by
  induction as generalizing s with
  | nil => exact h
  | cons a as ih => exact ih ((move_step s a).hasCode h)

end ReviewDesk.Session
