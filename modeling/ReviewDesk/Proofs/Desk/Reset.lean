/-
Clearing starts over.

What follows a clear is a run of its own: it goes as the same actions go at a new desk,
whatever was out when the desk was cleared and however much of it is answered later.
Two things tell the runs apart.  The generations differ, by the same amount throughout,
and calls are numbered on from those made before; and there are actions on the old
calls, which have no counterpart at the new desk and change nothing.

`Resumes` relates the two desks, and the same action keeps it (`Mirrors.step`).  That an
action on an old call keeps it needs more than the two desks: the answer must not be
taken, and that is a fact about the record, namely that the desk was cleared since the
call was made.
-/
import Mathlib.Data.List.Forall2
import ReviewDesk.Proofs.Desk.Calls
import ReviewDesk.Proofs.Desk.Mirror

namespace ReviewDesk.Desk

/-! ### What the two runs have in common -/

/-- An action as it looks when the first `n` calls are not counted.  Actions on these
are not seen at all. -/
def Action.since? (n : Nat) : Action → Option Action
  | .settle id o => if n ≤ id then some (.settle (id - n) o) else none
  | .abandon id => if n ≤ id then some (.abandon (id - n)) else none
  | a => some a

/-- The desk `e`, which comes from clearing `d`, looks like `e'`. -/
structure LooksLike (d e e' : Desk) : Prop where
  state : e.state = e'.state
  controls : e.controls = e'.controls
  display : e.display = e'.display
  /-- The codes sent since the clear. -/
  sent : e.sent = d.sent ++ e'.sent
  generation : e.session.generation = e'.session.generation + (d.session.generation + 1)

/-- A step after the clear of `d` goes like a step at a new desk. -/
structure GoesLike (d : Desk) (s s' : Step) : Prop where
  action : s.action.since? d.sent.length = some s'.action
  answer : s.answer = s'.answer.later d.sent.length
  after : LooksLike d s.after s'.after

theorem Action.eq_later_of_since? {n : Nat} {a a' : Action} (ha : a.since? n = some a') :
    a = a'.later n := by
  cases a with
  | settle id o =>
      obtain ⟨hle, rfl⟩ : n ≤ id ∧ Action.settle (id - n) o = a' := by
        simpa [since?] using ha
      rw [later, Nat.add_sub_cancel' hle]
  | abandon id =>
      obtain ⟨hle, rfl⟩ : n ≤ id ∧ Action.abandon (id - n) = a' := by
        simpa [since?] using ha
      rw [later, Nat.add_sub_cancel' hle]
  | _ =>
      cases ha
      rfl

/-- The desk `e`, which comes from clearing `d`, does what `e'` does, but for the calls
made before. -/
def Resumes (d e e' : Desk) : Prop :=
  Mirrors (d.session.generation + 1) d.sent (fun _ => false) e e'

theorem Resumes.looksLike {d e e' : Desk} (sim : Resumes d e e') : LooksLike d e e' where
  state := sim.state_eq
  controls := sim.controls_eq
  display := sim.display_eq
  sent := sim.sent
  generation := by rw [sim.session, Session.later_generation]

theorem Resumes.step {d e e' : Desk} (sim : Resumes d e e') {a a' : Action}
    (ha : a.since? d.sent.length = some a') :
    Resumes d (e.step a).1 (e'.step a').1 ∧
      (e.step a).2 = (e'.step a').2.later d.sent.length := by
  obtain rfl := Action.eq_later_of_since? ha
  exact ⟨Mirrors.step sim fun _ _ _ => rfl, Mirrors.step_answer sim fun _ _ => rfl⟩

/-- Clearing a desk leaves one that looks new. -/
theorem resumes_clear (d : Desk) (hold : ∀ c ∈ d.calls, c.id < d.sent.length) :
    Resumes d d.clear.1 new := by
  refine ⟨?_, by simp [clear, new], fun id _ => ?_⟩
  · simp [clear, Session.clear, Session.later, new, Session.new]
  · have hnone : d.clear.1.call? (d.sent.length + id) = none := by
      refine call?_eq_none.mpr fun c hc => ?_
      have := hold c hc
      omega
    rw [hnone]
    rfl

/-! ### Old calls -/

theorem Action.call?_of_since?_eq_none {a : Action} {n : Nat} (ha : a.since? n = none) :
    ∃ id < n, a.call? = some id := by
  cases a with
  | settle id o => exact ⟨id, by simpa [since?] using ha, rfl⟩
  | abandon id => exact ⟨id, by simpa [since?] using ha, rfl⟩
  | _ => cases ha

/-- The desk is `e` after the steps `h`, and the calls made by the time it was `d` have
been cleared away. -/
structure ClearedSince (d : Desk) (h : List Step) (e : Desk) : Prop where
  past : History h e
  le : d.sent.length ≤ e.sent.length
  old : ∀ id < d.sent.length, (∃ s ∈ h, s.makes id = true) → cleared id h = true

namespace ClearedSince

variable {d e e' : Desk} {h : List Step} {a : Action} {bs : List Action}

theorem start (past : History h d) : ClearedSince d (h ++ [d.stepOf .clear]) d.clear.1 := by
  refine ⟨past.snoc (move_step d .clear), Nat.le_refl _, fun id _ hmade => ?_⟩
  rw [cleared_snoc]
  have hmem : h.any (Step.makes id) = true := by
    simpa [Step.makes, stepOf] using hmade
  simp [hmem, Step.isClear, stepOf]

theorem snoc (cs : ClearedSince d h e) (a : Action) :
    ClearedSince d (h ++ [e.stepOf a]) (e.step a).1 := by
  have hm := move_step e a
  have hle := cs.le
  refine ⟨cs.past.snoc hm, ?_, fun id hid hmade => ?_⟩
  · rw [show (e.step a).1.sent = _ from hm.sent, List.length_append]
    exact Nat.le_trans hle (Nat.le_add_right _ _)
  · obtain ⟨t, ht, hmade⟩ := hmade
    rw [cleared_snoc]
    rcases List.mem_append.mp ht with ht | ht
    · simp [cs.old id hid ⟨t, ht, hmade⟩]
    · rw [List.mem_singleton.mp ht] at hmade
      have hnew : id = e.sent.length := (hm.makes_iff.mp hmade).2
      omega

/-- An old call that is answered has been cleared away. -/
theorem cleared_of_answers (cs : ClearedSince d h e) {id : Nat} (hid : id < d.sent.length)
    (hs : (e.stepOf a).answers id = true) : cleared id h = true := by
  obtain ⟨c, hc, hcid, -⟩ := (move_step e a).answered hs
  obtain ⟨_, made, _, hh, hmade, -⟩ := (cs.past.books.out id).mp ⟨c, hc, hcid⟩
  exact cs.old id hid ⟨made, by simp [hh], hmade⟩

/-- What is done to an old call changes nothing else. -/
theorem frame (cs : ClearedSince d h e) (ht : Timely (h ++ [e.stepOf a]))
    (ha : a.since? d.sent.length = none) :
    (e.step a).1.session = e.session ∧ (e.step a).1.sent = e.sent ∧
      ∀ j, (e.step a).1.call? (d.sent.length + j) = e.call? (d.sent.length + j) := by
  obtain ⟨id, hid, hcall⟩ := Action.call?_of_since?_eq_none ha
  have hm := move_step e a
  have hn := cs.past.not_applied hm ht hcall (cs.cleared_of_answers hid)
  obtain ⟨hsession, hsent, hcalls⟩ := hm.frame hcall hn
  exact ⟨hsession, hsent, fun j => hcalls _ (by omega)⟩

theorem resumes (cs : ClearedSince d h e) (ht : Timely (h ++ [e.stepOf a]))
    (ha : a.since? d.sent.length = none) (sim : Resumes d e e') :
    Resumes d (e.step a).1 e' := by
  obtain ⟨hsession, hsent, hcalls⟩ := cs.frame ht ha
  exact ⟨hsession.trans sim.session, hsent.trans sim.sent,
    fun j hj => (hcalls j).trans (sim.calls j hj)⟩

/-! ### Runs -/

/-- Actions on old calls apart, the run goes like the run of the same actions at a desk
that is related. -/
theorem goesLike (cs : ClearedSince d h e) (sim : Resumes d e e')
    (ht : Timely (h ++ e.steps bs)) :
    List.Forall₂ (GoesLike d)
        ((e.steps bs).filter fun s => (s.action.since? d.sent.length).isSome)
        (e'.steps (bs.filterMap (Action.since? d.sent.length))) ∧
      Resumes d (e.run bs).1 (e'.run (bs.filterMap (Action.since? d.sent.length))).1 := by
  induction bs generalizing h e e' with
  | nil => exact ⟨.nil, sim⟩
  | cons b bs ih =>
      rw [steps_cons, List.append_cons] at ht
      cases hb : b.since? d.sent.length with
      | none =>
          have hrest := ih (cs.snoc b) (cs.resumes ht.of_append hb sim) ht
          rw [steps_cons, List.filter_cons_of_neg (by simp [stepOf, hb]),
            List.filterMap_cons_none hb]
          exact hrest
      | some b' =>
          obtain ⟨hsim, hanswer⟩ := sim.step hb
          have hrest := ih (cs.snoc b) hsim ht
          rw [steps_cons, List.filter_cons_of_pos (by simp [stepOf, hb]),
            List.filterMap_cons_some hb]
          exact ⟨.cons ⟨hb, hanswer, hsim.looksLike⟩ hrest.1, hrest.2⟩

/-- Whatever is done to an old call, and whenever, changes nothing. -/
theorem steps_old (cs : ClearedSince d h e) (ht : Timely (h ++ e.steps bs)) :
    ∀ s ∈ e.steps bs, s.action.since? d.sent.length = none →
      s.after.session = s.before.session ∧ s.after.sent = s.before.sent ∧
        ∀ id o, s.action = .settle id o → (∃ c ∈ s.before.calls, c.id = id) →
          s.answer = .superseded := by
  induction bs generalizing h e with
  | nil => simp
  | cons b bs ih =>
      rw [steps_cons, List.append_cons] at ht
      intro s hs hold
      rcases List.mem_cons.mp hs with rfl | hs
      · obtain ⟨hsession, hsent, -⟩ := cs.frame ht.of_append hold
        refine ⟨hsession, hsent, fun id o ha hout => ?_⟩
        obtain ⟨i, hi, hcall⟩ := Action.call?_of_since?_eq_none hold
        rw [ha] at hcall
        cases hcall
        have hs := (move_step e b).answers_of_out ha hout
        exact cs.past.superseded (move_step e b) ht.of_append hs (cs.cleared_of_answers hi hs)
      · exact ih (cs.snoc b) ht s hs hold

end ClearedSince

/--
**After a clear everything goes as at a new desk.**

Let `d` be any desk that can be reached, with any calls out, and let any actions follow
its clear.  Those that are not about a call made before go, one by one, like the same
actions at a new desk: they answer the same and leave a desk that looks the same and has
sent the same codes.  The others change nothing, and an answer among them is
superseded.  The generation must not have started over.
-/
theorem clear_starts_over (as bs : List Action) (d : Desk) (hd : d = (new.run as).1)
    (hb : advances (new.steps (as ++ .clear :: bs)) < UInt64.size) :
    List.Forall₂ (GoesLike d)
        ((d.clear.1.steps bs).filter fun s => (s.action.since? d.sent.length).isSome)
        (new.steps (bs.filterMap (Action.since? d.sent.length))) ∧
      (∀ s ∈ d.clear.1.steps bs, s.action.since? d.sent.length = none →
        s.after.session = s.before.session ∧ s.after.sent = s.before.sent ∧
          ∀ id o, s.action = .settle id o → (∃ c ∈ s.before.calls, c.id = id) →
            s.answer = .superseded) ∧
      LooksLike d (d.clear.1.run bs).1
        (new.run (bs.filterMap (Action.since? d.sent.length))).1 := by
  subst hd
  have past := history_steps as
  have cs := ClearedSince.start past
  have htimely := timely_of_advances_lt hb
  rw [steps_append, steps_cons, List.append_cons] at htimely
  have hold : ∀ c ∈ (new.run as).1.calls, c.id < (new.run as).1.sent.length := by
    intro c hc
    exact past.books.lt_of_out ((past.books.out c.id).mp ⟨c, hc, rfl⟩)
  obtain ⟨hgoes, hresumes⟩ := cs.goesLike (resumes_clear _ hold) htimely
  exact ⟨hgoes, cs.steps_old htimely, hresumes.looksLike⟩

/-- The old call is answered while a new one is out. -/
theorem clear_starts_over_with_call_out :
    advances (new.steps [.setCode "x", .submit, .clear, .setCode "y", .submit,
        .settle 0 (.error .unknown)]) < UInt64.size ∧
      LooksLike (new.run [.setCode "x", .submit]).1
        ((new.run [.setCode "x", .submit]).1.clear.1.run
          [.setCode "y", .submit, .settle 0 (.error .unknown)]).1
        (new.run [.setCode "y", .submit]).1 := by
  have hb : advances (new.steps [.setCode "x", .submit, .clear, .setCode "y", .submit,
      .settle 0 (.error .unknown)]) < UInt64.size := by decide
  exact ⟨hb, (clear_starts_over [.setCode "x", .submit]
    [.setCode "y", .submit, .settle 0 (.error .unknown)] _ rfl hb).2.2⟩

end ReviewDesk.Desk
