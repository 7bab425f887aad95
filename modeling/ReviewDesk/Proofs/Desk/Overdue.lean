/-
Answers that are overdue.

The generation has 64 bits and starts over.  In an overdue run code is handed in and cleared
away, the desk is cleared again and again, and other code is handed in.  If the clears are
2^64 - 1 in all, the two calls that are out then have one generation, and the desk takes the
answer to the old call for the answer to the new one.

So whatever is said of a call that is answered needs the record to be timely; these runs are
what happens otherwise.  All that is known of them is read off one equation for the desk they
end at (`run_overdue`), which holds for any number of clears.
-/
import ReviewDesk.Proofs.Desk.Record

namespace ReviewDesk.Desk

variable {d : Desk}

theorem run_clears (d : Desk) (n : Nat) :
    (d.run (List.replicate (n + 1) .clear)).1
      = ⟨⟨.empty, d.session.generation + UInt64.ofNat (n + 1)⟩, d.calls, d.sent⟩ := by
  induction n generalizing d with
  | zero => rfl
  | succ n ih =>
      have hgen : d.session.generation + 1 + UInt64.ofNat (n + 1)
          = d.session.generation + UInt64.ofNat (n + 1 + 1) := by
        rw [UInt64.ofNat_add (n + 1), UInt64.add_assoc, UInt64.add_comm 1]
        rfl
      rw [List.replicate_succ]
      refine (ih d.clear.1).trans ?_
      simp only [clear, Session.clear, hgen]

theorem run_edit (hidle : d.state.isSubmitting = false) (code : String) :
    (d.run [.setCode code]).1 = ⟨⟨.idle code, d.session.generation⟩, d.calls, d.sent⟩ := by
  have hedit : d.setCode code
      = (⟨⟨.idle code, d.session.generation⟩, d.calls, d.sent⟩, .edited true) := by
    simp only [setCode, Session.edit_accepted hidle]
  exact congrArg Prod.fst hedit

theorem step_submit (hidle : d.state.isSubmitting = false)
    (hcode : Text.isBlank d.state.code = false) :
    d.step .submit
      = (⟨⟨.submitting d.state.code, d.session.generation + 1⟩,
          d.calls ++ [⟨d.sent.length, ⟨d.session.generation + 1, ⟨d.state.code, hcode⟩⟩⟩],
          d.sent ++ [d.state.code]⟩, .pending d.sent.length) := by
  simp only [step, submit, Session.submit_accepted hidle hcode]
  rfl

/-! ### Overdue runs -/

/-- Code is handed in and cleared away, and the desk is cleared `n` more times. -/
def clearedAway (n : Nat) : List Action :=
  [.setCode "old", .submit] ++ List.replicate (n + 1) .clear

/-- Then other code is handed in. -/
def overdue (n : Nat) : List Action :=
  clearedAway n ++ [.setCode "new"] ++ [.submit]

/-- The call that was cleared away. -/
def oldCall : Call := ⟨0, ⟨1, ⟨"old", by decide⟩⟩⟩

theorem run_overdue_edited (n : Nat) :
    (new.run (clearedAway n ++ [.setCode "new"])).1
      = ⟨⟨.idle "new", 1 + UInt64.ofNat (n + 1)⟩, [oldCall], ["old"]⟩ := by
  have hcleared : (new.run (clearedAway n)).1
      = ⟨⟨.empty, 1 + UInt64.ofNat (n + 1)⟩, [oldCall], ["old"]⟩ := by
    rw [clearedAway, run_append, run_clears]
    rfl
  rw [run_append, hcleared, run_edit rfl]

/-- The last submission of an overdue run. -/
theorem step_overdue (n : Nat) :
    (new.run (clearedAway n ++ [.setCode "new"])).1.step .submit
      = (⟨⟨.submitting "new", 1 + UInt64.ofNat (n + 1) + 1⟩,
          [oldCall, ⟨1, ⟨1 + UInt64.ofNat (n + 1) + 1, ⟨"new", by decide⟩⟩⟩], ["old", "new"]⟩,
        .pending 1) := by
  rw [run_overdue_edited]
  have hcode : Text.isBlank "new" = false := by decide
  exact step_submit (d := ⟨⟨.idle "new", _⟩, [oldCall], ["old"]⟩) rfl hcode

/-- The desk at the end of an overdue run, with both calls out. -/
theorem run_overdue (n : Nat) :
    (new.run (overdue n)).1
      = ⟨⟨.submitting "new", 1 + UInt64.ofNat (n + 1) + 1⟩,
        [oldCall, ⟨1, ⟨1 + UInt64.ofNat (n + 1) + 1, ⟨"new", by decide⟩⟩⟩], ["old", "new"]⟩ := by
  rw [overdue, run_append]
  exact congrArg Prod.fst (step_overdue n)

/-- The call that is made at the end is the last one. -/
theorem latest_overdue (n : Nat) : Latest 1 (new.steps (overdue n)) := by
  rw [overdue, steps_append]
  refine since_snoc.mpr (.inl ?_)
  simp [Step.makes, step_overdue]

/-- The desk was cleared after the first call. -/
theorem cleared_overdue (n : Nat) : cleared 0 (new.steps (overdue n)) = true := by
  rw [overdue, clearedAway, List.replicate_succ, List.append_assoc, List.append_assoc,
    List.cons_append]
  exact cleared_iff.mpr ⟨[new.stepOf (.setCode "old")], _, _, rfl, rfl, _, List.mem_cons_self, rfl⟩

theorem not_settle_of_mem_overdue {n : Nat} {a : Action} (h : a ∈ overdue n) (id : Nat)
    (o : Outcome) : a ≠ .settle id o := by
  rintro rfl
  simp [overdue, clearedAway] at h

/-- After 2^64 submissions and clears an answer to the old call is taken, and what it brings
is shown beside the code of the new one. -/
theorem overdue_applied (o : Outcome) :
    (new.run (overdue (UInt64.size - 2))).1.step (.settle 0 o)
      = (⟨⟨Session.settled "new" o, 1⟩, [⟨1, ⟨1, ⟨"new", by decide⟩⟩⟩], ["old", "new"]⟩,
        .applied) := by
  have hwrap : (1 : UInt64) + UInt64.ofNat (UInt64.size - 2 + 1) + 1 = 1 := by
    rw [UInt64.add_assoc]
    exact UInt64.add_zero _
  rw [run_overdue, hwrap]
  have hexp : Session.Expects ⟨.submitting "new", 1⟩ oldCall.ticket := ⟨rfl, rfl⟩
  have hcall : call? ⟨⟨.submitting "new", 1⟩, [oldCall, ⟨1, ⟨1, ⟨"new", by decide⟩⟩⟩],
      ["old", "new"]⟩ 0 = some oldCall := rfl
  exact settle_applied hcall hexp o

end ReviewDesk.Desk
