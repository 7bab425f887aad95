/-
What the session waits for.

The session is submitting, and holds a generation; which call that is about it does not
say.  `Waiting` says it: the session is submitting exactly while there is a call that
was made last and neither answered nor cleared away since, and every call that is out
and was not cleared away is that call.

The step that needs an argument is an answer.  The session takes the answer to a call
whose generation is its own, and between the two lie the submissions and clears that
followed the call (`Books.ticket`).  None did if the call is the awaited one.  In the
other direction equal generations mean that their number is a multiple of 2^64, hence
zero in a timely record, hence the call is the last one made.
-/
import ReviewDesk.Proofs.Desk.Books

namespace ReviewDesk.Desk

variable {h : List Step} {d : Desk} {s : Step} {id : Nat} {c : Call}

/-! ### One step -/

namespace Move

theorem isSubmitting_iff (hm : Move s) :
    s.after.state.isSubmitting = true ↔
      s.isCall = true ∨
        (s.before.state.isSubmitting = true ∧ s.isClear = false ∧ s.answer ≠ .applied) := by
  cases hm <;> simp_all [state, Step.isCall, Step.isClear]

theorem not_submitting_of_isCall (hm : Move s) (hs : s.isCall = true) :
    s.before.state.isSubmitting = false := by
  cases hm with
  | call r hidle hcode => exact hidle
  | _ => simp [Step.isCall] at hs

/-- A call that is answered was out, and its ticket decides what becomes of it. -/
theorem answered (hm : Move s) (hs : s.answers id = true) :
    ∃ c ∈ s.before.calls, c.id = id ∧
      (s.answer = .applied ↔ s.before.session.Expects c.ticket) ∧
      (s.answer = .superseded ↔ ¬ s.before.session.Expects c.ticket) := by
  cases hm with
  | applied o hcall hexp =>
      obtain ⟨hc, hid⟩ := call?_eq_some hcall
      simp only [Step.answers, beq_iff_eq] at hs
      exact ⟨_, hc, hid.trans hs, by simp [hexp], by simp [hexp]⟩
  | superseded o hcall hexp =>
      obtain ⟨hc, hid⟩ := call?_eq_some hcall
      simp only [Step.answers, beq_iff_eq] at hs
      exact ⟨_, hc, hid.trans hs, by simp [hexp], by simp [hexp]⟩
  | _ => simp [Step.answers] at hs

theorem answers_of_applied (hm : Move s) (hs : s.answer = .applied) :
    ∃ id, s.answers id = true := by
  cases hm with
  | @applied d id c o hcall hexp => exact ⟨id, by simp [Step.answers]⟩
  | _ => simp at hs

end Move

/-! ### The invariant -/

/-- What the session of `d` waits for after the steps `h`. -/
structure Waiting (h : List Step) (d : Desk) : Prop where
  /-- The session is submitting exactly while there is a call it waits for. -/
  submitting : d.state.isSubmitting = true ↔ ∃ id, Awaited id h
  /-- A call that is out is awaited unless the desk was cleared since. -/
  awaited : ∀ c ∈ d.calls, Uncleared c.id h → Awaited c.id h

/-- The awaited call is the one whose answer the session would take. -/
theorem Waiting.expects (wait : Waiting h d) (ok : Books h d) (hc : c ∈ d.calls)
    (hw : Awaited c.id h) : d.session.Expects c.ticket := by
  refine ⟨?_, wait.submitting.mpr ⟨c.id, hw⟩⟩
  obtain ⟨older, made, later, hh, hmade, hlater⟩ := hw
  have hzero : advances later = 0 :=
    advances_eq_zero.mpr fun t ht => ⟨(hlater t ht).1, (hlater t ht).2.1⟩
  have hticket := ok.ticket c hc older made later hh hmade
  rw [hzero] at hticket
  simpa using hticket

/-- Equal generations are no accident while the answer is not too late. -/
theorem Books.advances_eq_zero_of_expects (ok : Books h d) (hc : c ∈ d.calls)
    (hexp : d.session.Expects c.ticket) {older later : List Step} {made : Step}
    (hh : h = older ++ made :: later) (hmade : made.makes c.id = true)
    (hlt : advances later < UInt64.size) : advances later = 0 := by
  have hticket := ok.ticket c hc older made later hh hmade
  rw [hexp.1] at hticket
  have hzero : UInt64.ofNat (advances later) = 0 := UInt64.add_eq_left.mp hticket
  have hmod := congrArg UInt64.toNat hzero
  rwa [UInt64.toNat_ofNat_of_lt' hlt] at hmod

/-- The call whose answer the session would take is the awaited one. -/
theorem Waiting.awaited_of_expects (wait : Waiting h d) (ok : Books h d) (hc : c ∈ d.calls)
    (hexp : d.session.Expects c.ticket) (hlt : ∀ older made later,
      h = older ++ made :: later → made.makes c.id = true → advances later < UInt64.size) :
    Awaited c.id h := by
  obtain ⟨id, hw⟩ := wait.submitting.mp hexp.2
  obtain ⟨older, made, later, hh, hmade, -⟩ := (ok.out c.id).mp ⟨c, hc, rfl⟩
  have hzero := ok.advances_eq_zero_of_expects hc hexp hh hmade (hlt older made later hh hmade)
  have hlast : Latest c.id h :=
    ⟨older, made, later, hh, hmade, fun t ht => (advances_eq_zero.mp hzero t ht).1⟩
  rwa [latest_unique hlast hw.latest]

/-- The same told by clears alone, while the answer is not too late. -/
theorem Waiting.expects_iff_uncleared (wait : Waiting h d) (ok : Books h d)
    (hc : c ∈ d.calls) {older later : List Step} {made : Step}
    (hh : h = older ++ made :: later) (hmade : made.makes c.id = true)
    (hlt : advances later < UInt64.size) :
    d.session.Expects c.ticket ↔ ∀ t ∈ later, t.isClear = false := by
  constructor
  · intro hexp t ht
    have hzero := ok.advances_eq_zero_of_expects hc hexp hh hmade hlt
    exact (advances_eq_zero.mp hzero t ht).2
  · intro hclear
    exact wait.expects ok hc (wait.awaited c hc ⟨older, made, later, hh, hmade, hclear⟩)

/-! ### A step keeps it -/

theorem Waiting.expects_iff_awaited (wait : Waiting h s.before) (ok : Books h s.before)
    (ht : Timely (h ++ [s])) (hc : c ∈ s.before.calls) (hs : s.answers c.id = true) :
    s.before.session.Expects c.ticket ↔ Awaited c.id h := by
  constructor
  · intro hexp
    exact wait.awaited_of_expects ok hc hexp fun older made later hh hmade =>
      ht.between hh hmade hs
  · exact wait.expects ok hc

/-- An answer that is taken is the answer to the awaited call. -/
theorem Waiting.awaited_of_applied (wait : Waiting h s.before) (ok : Books h s.before)
    (hm : Move s) (ht : Timely (h ++ [s])) (hs : s.answers id = true)
    (happlied : s.answer = .applied) : Awaited id h := by
  obtain ⟨c, hc, rfl, hexp, -⟩ := hm.answered hs
  exact (wait.expects_iff_awaited ok ht hc hs).mp (hexp.mp happlied)

theorem Waiting.submitting_snoc (wait : Waiting h s.before) (ok : Books h s.before)
    (hm : Move s) (ht : Timely (h ++ [s])) :
    s.after.state.isSubmitting = true ↔ ∃ id, Awaited id (h ++ [s]) := by
  simp only [Awaited, since_snoc]
  rw [hm.isSubmitting_iff]
  constructor
  · rintro (hcall | ⟨hbusy, hclear, hanswer⟩)
    · exact ⟨_, .inl (hm.makes_iff.mpr ⟨hcall, rfl⟩)⟩
    · obtain ⟨id, hw⟩ := wait.submitting.mp hbusy
      have hcall : s.isCall = false := Bool.eq_false_iff.mpr fun hcall => by
        simp [hm.not_submitting_of_isCall hcall] at hbusy
      refine ⟨id, .inr ⟨hw, hcall, hclear, Bool.eq_false_iff.mpr fun hs => ?_⟩⟩
      -- The session takes an answer to the awaited call, and this step took none.
      obtain ⟨c, hc, rfl, happlied, -⟩ := hm.answered hs
      exact hanswer (happlied.mpr (wait.expects ok hc hw))
  · rintro ⟨id, hmade | ⟨hw, hcall, hclear, hs⟩⟩
    · exact .inl (Step.isCall_of_makes hmade)
    · refine .inr ⟨wait.submitting.mpr ⟨id, hw⟩, hclear, ?_⟩
      intro hanswer
      obtain ⟨i, hi⟩ := hm.answers_of_applied hanswer
      have hw' := wait.awaited_of_applied ok hm ht hi hanswer
      rw [latest_unique hw'.latest (Awaited.latest hw), hs] at hi
      cases hi

theorem Waiting.awaited_snoc (wait : Waiting h s.before) (hm : Move s) :
    ∀ c ∈ s.after.calls, Uncleared c.id (h ++ [s]) → Awaited c.id (h ++ [s]) := by
  intro c hc hun
  unfold Uncleared at hun
  unfold Awaited
  rw [since_snoc] at hun ⊢
  rcases hun with hmade | ⟨hun, hclear⟩
  · exact .inl hmade
  · rcases hm.out_iff.mp ⟨c, hc, rfl⟩ with hmade | ⟨⟨c', hc', hid⟩, hclosed⟩
    · exact .inl hmade
    · have hw : Awaited c.id h := by
        rw [← hid] at hun ⊢
        exact wait.awaited c' hc' hun
      have hbusy := wait.submitting.mpr ⟨c.id, hw⟩
      refine .inr ⟨hw, ?_, hclear, ?_⟩
      · refine Bool.eq_false_iff.mpr fun hcall => ?_
        simp [hm.not_submitting_of_isCall hcall] at hbusy
      · refine Bool.eq_false_iff.mpr fun hs => ?_
        simp [Step.closes_of_answers hs] at hclosed

theorem History.waiting (past : History h d) (ht : Timely h) : Waiting h d := by
  induction past with
  | nil =>
      refine ⟨?_, by simp [new]⟩
      simp [new, state, Session.new, Awaited, since_nil]
  | snoc past hm ih =>
      have wait := ih ht.of_append
      exact ⟨wait.submitting_snoc (History.books past) hm ht, wait.awaited_snoc hm⟩

end ReviewDesk.Desk
