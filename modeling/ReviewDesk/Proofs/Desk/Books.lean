/-
What the calls at the desk say about the record.

`Books` is the invariant that ties the two together.  The desk knows a call by the
generation of its ticket and has no memory of what happened meanwhile; the record knows
what happened and has no generations.  The tie is `ticket`: between a call's generation
and the desk's lie exactly the submissions and clears that followed the call.  The rest
says which calls are out and that no number was given twice.

Each field is kept by a step for a reason that is a fact about single steps, and these
come first.
-/
import ReviewDesk.Proofs.Desk.Record

namespace ReviewDesk.Desk

variable {s : Step} {id : Nat} {c : Call}

/-! ### One step -/

namespace Move

theorem generation (hm : Move s) :
    s.after.session.generation
      = s.before.session.generation + UInt64.ofNat (if s.advances then 1 else 0) := by
  cases hm <;> simp [Step.advances, Step.isCall, Step.isClear]

theorem sent (hm : Move s) :
    s.after.sent
      = s.before.sent ++ if s.isCall then [s.before.state.code] else [] := by
  cases hm <;> simp [Step.isCall]

theorem makes_iff (hm : Move s) :
    s.makes id = true ↔ s.isCall = true ∧ id = s.before.sent.length := by
  cases hm with
  | call r hidle hcode =>
      simp only [Step.isCall, Step.makes, beq_iff_eq, true_and]
      exact eq_comm
  | _ => simp [Step.isCall, Step.makes]

/-- A call is at the desk because it was there before or because it was just made. -/
theorem mem_calls (hm : Move s) (hc : c ∈ s.after.calls) :
    c ∈ s.before.calls ∨
      (s.makes c.id = true ∧ c.ticket.generation = s.after.session.generation) := by
  cases hm with
  | call r hidle hcode =>
      rcases List.mem_append.mp hc with hc | hc
      · exact .inl hc
      · rw [List.mem_singleton.mp hc]
        exact .inr ⟨by simp [Step.makes], rfl⟩
  | applied o hcall hexp => exact .inl (mem_without.mp hc).1
  | superseded o hcall hexp => exact .inl (mem_without.mp hc).1
  | abandoned hcall => exact .inl (mem_without.mp hc).1
  | _ => exact .inl hc

private theorem exists_without {d : Desk} {i : Nat} :
    (∃ c ∈ d.without i, c.id = id) ↔ (∃ c ∈ d.calls, c.id = id) ∧ i ≠ id := by
  simp only [mem_without]
  grind

/-- A call is out if it was just made, or if it was and the step did not close it. -/
theorem out_iff (hm : Move s) :
    (∃ c ∈ s.after.calls, c.id = id) ↔
      s.makes id = true ∨ ((∃ c ∈ s.before.calls, c.id = id) ∧ s.closes id = false) := by
  cases hm with
  | call r hidle hcode =>
      simp only [List.mem_append, List.mem_singleton, Step.makes, Step.closes, Step.answers]
      grind
  | applied o hcall hexp => simp [exists_without, Step.makes, Step.closes, Step.answers]
  | superseded o hcall hexp => simp [exists_without, Step.makes, Step.closes, Step.answers]
  | abandoned hcall => simp [exists_without, Step.makes, Step.closes]
  | _ => simp [Step.makes, Step.closes, Step.answers]

end Move

/-! ### The invariant -/

/-- What the desk `d` knows after the steps `h`. -/
structure Books (h : List Step) (d : Desk) : Prop where
  /-- Calls are numbered from zero, so the next number is new. -/
  numbered : ∀ s ∈ h, ∀ id, s.makes id = true → id < d.sent.length
  /-- The calls at the desk are those that were made and not closed since. -/
  out : ∀ id, (∃ c ∈ d.calls, c.id = id) ↔ Out id h
  /-- A ticket is as old as the submissions and clears that followed its call. -/
  ticket : ∀ c ∈ d.calls, ∀ older made later,
    h = older ++ made :: later → made.makes c.id = true →
      c.ticket.generation + UInt64.ofNat (advances later) = d.session.generation

/-- A call that is out has been numbered. -/
theorem Books.lt_of_out {h : List Step} {d : Desk} (ok : Books h d) (hout : Out id h) :
    id < d.sent.length := by
  obtain ⟨_, made, _, hh, hmade, -⟩ := hout
  exact ok.numbered made (by simp [hh]) id hmade

theorem Books.numbered_snoc {h : List Step} (ok : Books h s.before) (hm : Move s) :
    ∀ t ∈ h ++ [s], ∀ id, t.makes id = true → id < s.after.sent.length := by
  intro t ht id hmade
  rw [hm.sent, List.length_append]
  rcases List.mem_append.mp ht with ht | ht
  · have := ok.numbered t ht id hmade
    omega
  · rw [List.mem_singleton.mp ht] at hmade
    obtain ⟨hcall, rfl⟩ := hm.makes_iff.mp hmade
    simp [hcall]

theorem Books.out_snoc {h : List Step} (ok : Books h s.before) (hm : Move s) (id : Nat) :
    (∃ c ∈ s.after.calls, c.id = id) ↔ Out id (h ++ [s]) := by
  rw [hm.out_iff, ok.out, Out, Out, since_snoc]

theorem Books.ticket_snoc {h : List Step} (ok : Books h s.before) (hm : Move s) :
    ∀ c ∈ s.after.calls, ∀ older made later,
      h ++ [s] = older ++ made :: later → made.makes c.id = true →
        c.ticket.generation + UInt64.ofNat (advances later) = s.after.session.generation := by
  intro c hc older made later hh hmade
  -- The number of a new call is in no earlier step, and that of an old one not in this.
  rcases snoc_eq_iff.mp hh with ⟨rfl, rfl, rfl⟩ | ⟨later', rfl, rfl⟩
  · rcases hm.mem_calls hc with hc' | ⟨-, hgen⟩
    · have hlt := ok.lt_of_out ((ok.out c.id).mp ⟨c, hc', rfl⟩)
      have hid := (hm.makes_iff.mp hmade).2
      omega
    · simp [hgen]
  · rcases hm.mem_calls hc with hc' | ⟨hnew, -⟩
    · rw [advances_append, advances_cons, hm.generation,
        ← ok.ticket c hc' older made later' rfl hmade]
      simp [UInt64.ofNat_add, UInt64.add_assoc]
    · have hlt := ok.numbered made (by simp) c.id hmade
      have hid := (hm.makes_iff.mp hnew).2
      omega

theorem History.books {h : List Step} {d : Desk} (past : History h d) : Books h d := by
  induction past with
  | nil =>
      refine ⟨by simp, ?_, by simp [new]⟩
      intro id
      simp [new, Out, since_nil]
  | snoc past hm ih =>
      exact ⟨ih.numbered_snoc hm, ih.out_snoc hm, ih.ticket_snoc hm⟩

/-- The calls of a run are numbered from the calls made before it. -/
theorem le_of_makes_steps {d : Desk} {as : List Action} {t : Step} (ht : t ∈ d.steps as)
    (hmade : t.makes id = true) : d.sent.length ≤ id := by
  induction as generalizing d with
  | nil => simp at ht
  | cons a as ih =>
      have hm := move_step d a
      rcases List.mem_cons.mp ht with rfl | ht
      · exact Nat.le_of_eq (hm.makes_iff.mp hmade).2.symm
      · have hrest := ih ht
        have hsent : d.sent.length ≤ (d.step a).1.sent.length := by
          rw [show (d.step a).1.sent = _ from hm.sent]
          simp [stepOf]
        omega

end ReviewDesk.Desk
