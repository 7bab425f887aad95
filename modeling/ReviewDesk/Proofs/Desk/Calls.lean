/-
What becomes of a call.

A call that is answered while it is out is applied if the desk was not cleared since it
was made, and superseded if it was, whatever else was done meanwhile.  So at any moment
at most one of the calls that are out can still be applied, and it is the one the
session is waiting for.
-/
import ReviewDesk.Proofs.Desk.Waiting

namespace ReviewDesk.Desk

variable {h : List Step} {d : Desk} {s : Step} {id : Nat}

/-- The service answers a call that is out. -/
theorem Move.answers_of_out (hm : Move s) {o : Outcome} (ha : s.action = .settle id o)
    (hc : ∃ c ∈ s.before.calls, c.id = id) : s.answers id = true := by
  cases hm with
  | applied o hcall hexp =>
      injection ha with hid
      simp [Step.answers, hid]
  | superseded o hcall hexp =>
      injection ha with hid
      simp [Step.answers, hid]
  | settleGone o hcall =>
      obtain ⟨c, hc, rfl⟩ := hc
      injection ha with hid
      exact absurd hid.symm (call?_eq_none.mp hcall c hc)
  | _ => simp at ha

/-- What an answer does to a call is decided by the clears since the call was made. -/
theorem History.settled (past : History h s.before) (hm : Move s) (ht : Timely (h ++ [s]))
    {older between : List Step} {made : Step} (hh : h = older ++ made :: between)
    (hmade : made.makes id = true) (hs : s.answers id = true) :
    (s.answer = .applied ↔ ∀ t ∈ between, t.isClear = false) ∧
      (s.answer = .superseded ↔ ∃ t ∈ between, t.isClear = true) := by
  obtain ⟨c, hc, rfl, happlied, hsuperseded⟩ := hm.answered hs
  have hexp := (past.waiting ht.of_append).expects_iff_uncleared past.books hc hh hmade
    (ht.between hh hmade hs)
  refine ⟨happlied.trans hexp, ?_⟩
  rw [hsuperseded, hexp]
  simp

/-- The answer to a call that was cleared away is not taken. -/
theorem History.superseded (past : History h s.before) (hm : Move s) (ht : Timely (h ++ [s]))
    (hs : s.answers id = true) (hc : cleared id h = true) : s.answer = .superseded := by
  obtain ⟨older, made, later, hh, hmade, hclear⟩ := cleared_iff.mp hc
  exact (past.settled hm ht hh hmade hs).2.mpr hclear

theorem Step.call?_of_answers (hs : s.answers id = true) : s.action.call? = some id := by
  unfold answers at hs
  split at hs
  · next ha _ => simpa [ha, Action.call?] using hs
  · next ha _ => simpa [ha, Action.call?] using hs
  · cases hs

/-- Nothing is taken from a call that was cleared away by the time it is answered. -/
theorem History.not_applied (past : History h s.before) (hm : Move s) (ht : Timely (h ++ [s]))
    (ha : s.action.call? = some id) (hc : s.answers id = true → cleared id h = true) :
    s.answer ≠ .applied := by
  intro happlied
  obtain ⟨i, hi⟩ := hm.answers_of_applied happlied
  have hcall := Step.call?_of_answers hi
  rw [ha] at hcall
  cases hcall
  rw [past.superseded hm ht hi (hc hi)] at happlied
  cases happlied

/-- A call that would be applied now is the one the session waits for. -/
theorem History.awaited_of_applied (past : History h d) (ht : advances h < UInt64.size)
    {o : Outcome} (ha : (d.settle id o).2 = .applied) : Awaited id h := by
  have hm := move_step d (.settle id o)
  have htimely : Timely (h ++ [d.stepOf (.settle id o)]) := by
    refine timely_of_advances_lt ?_
    rw [advances_append, advances_cons]
    simpa [Step.advances, Step.isCall, Step.isClear, stepOf] using ht
  exact (past.waiting htimely.of_append).awaited_of_applied past.books hm htimely
    (Step.answers_of_applied rfl ha) ha

/-- A call that is awaited after a run and was made before it was awaited already. -/
theorem Awaited.of_run {as bs : List Action} (hout : Out id (new.steps as))
    (hw : Awaited id (new.steps (as ++ bs))) : Awaited id (new.steps as) := by
  rw [steps_append] at hw
  rcases since_append.mp hw with ⟨_, t, _, hbs, hmade, -⟩ | ⟨hw, -⟩
  · have hmem : t ∈ (new.run as).1.steps bs := by simp [hbs]
    have hlt := (history_steps as).books.lt_of_out hout
    have hle := le_of_makes_steps hmem hmade
    omega
  · exact hw

/--
**A call is applied exactly if the desk was not cleared while it was out.**

The first part says it of every answer to a call that is out; by the second there are no
other answers.  The third says that of the calls that are out at one moment at most one
can still be applied, whatever is done next, and the last when the session is
submitting.  The generation must not have started over.
-/
theorem call_decided_by_clears (as : List Action)
    (hb : advances (new.steps as) < UInt64.size) :
    (∀ older made between settled rest id o,
        new.steps as = older ++ made :: (between ++ settled :: rest) →
        made.makes id = true → (∀ s ∈ between, s.closes id = false) →
        settled.action = .settle id o →
          (settled.answer = .applied ↔ ∀ s ∈ between, s.isClear = false) ∧
          (settled.answer = .superseded ↔ ∃ s ∈ between, s.isClear = true)) ∧
      (∀ older settled rest id,
        new.steps as = older ++ settled :: rest → settled.answers id = true → Out id older) ∧
      (∀ bs cs i j o p,
        advances (new.steps (as ++ bs)) < UInt64.size →
        advances (new.steps (as ++ cs)) < UInt64.size →
        Out i (new.steps as) → Out j (new.steps as) →
        ((new.run (as ++ bs)).1.settle i o).2 = .applied →
        ((new.run (as ++ cs)).1.settle j p).2 = .applied → i = j) ∧
      ((new.run as).1.state.isSubmitting = true ↔ ∃ id, Awaited id (new.steps as)) := by
  have past := history_steps as
  have htimely : Timely (new.steps as) := timely_of_advances_lt hb
  refine ⟨?_, ?_, ?_, (past.waiting htimely).submitting⟩
  · intro older made between settled rest id o hh hmade hopen ha
    rw [← List.cons_append, ← List.append_assoc] at hh
    obtain ⟨hpast, hm⟩ := past.before hh
    have hout : Out id (older ++ made :: between) := ⟨older, made, between, rfl, hmade, hopen⟩
    have hs := hm.answers_of_out ha ((hpast.books.out id).mpr hout)
    rw [hh, List.append_cons] at htimely
    exact hpast.settled hm htimely.of_append rfl hmade hs
  · intro older settled rest id hh hs
    obtain ⟨hpast, hm⟩ := past.before hh
    obtain ⟨c, hc, hid, -⟩ := hm.answered hs
    exact (hpast.books.out id).mp ⟨c, hc, hid⟩
  · intro bs cs i j o p hbs hcs hi hj happlied happlied'
    have hwi := Awaited.of_run hi ((history_steps _).awaited_of_applied hbs happlied)
    have hwj := Awaited.of_run hj ((history_steps _).awaited_of_applied hcs happlied')
    exact latest_unique hwi.latest hwj.latest

/-- The answer to a call that was cleared away comes while a newer one is out. -/
def overtaken : List Action :=
  [.setCode "x", .submit, .clear, .setCode "y", .submit, .settle 0 (.error .unknown)]

theorem call_decided_by_clears_overtaken :
    advances (new.steps overtaken) < UInt64.size ∧
      (∃ older made between settled,
        new.steps overtaken = older ++ made :: (between ++ [settled]) ∧
          made.makes 0 = true ∧ (∀ s ∈ between, s.closes 0 = false) ∧
          settled.action = .settle 0 (.error .unknown) ∧ settled.answer = .superseded) ∧
      (new.run overtaken).1.state.isSubmitting = true := by
  have hb : advances (new.steps overtaken) < UInt64.size := by decide
  obtain ⟨hsettled, -, -, hsubmitting⟩ := call_decided_by_clears overtaken hb
  refine ⟨hb, ?_, ?_⟩
  · have hh : new.steps overtaken = new.steps [.setCode "x"] ++
        (new.run [.setCode "x"]).1.stepOf .submit ::
          ((new.run [.setCode "x", .submit]).1.steps [.clear, .setCode "y", .submit] ++
            [(new.run overtaken.dropLast).1.stepOf (.settle 0 (.error .unknown))]) := rfl
    have hopen : ∀ s ∈ (new.run [.setCode "x", .submit]).1.steps
        [.clear, .setCode "y", .submit], s.closes 0 = false := by decide
    refine ⟨_, _, _, _, hh, by decide, hopen, rfl, ?_⟩
    refine (hsettled _ _ _ _ [] 0 _ hh (by decide) hopen rfl).2.mpr ?_
    exact ⟨_, List.mem_cons_self, rfl⟩
  · refine hsubmitting.mpr ⟨1, new.steps (overtaken.take 4),
      (new.run (overtaken.take 4)).1.stepOf .submit, _, rfl, by decide, by decide⟩

end ReviewDesk.Desk
