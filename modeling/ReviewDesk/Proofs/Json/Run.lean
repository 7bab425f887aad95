/-
What readers come to on input of a known shape.

A reader is followed along its input: the bytes that come next decide which branch it
takes, and what it has read is dropped from the front.  Each equation here is one such
step, so that the meaning of a reader on a row of bytes is found by rewriting.
-/
import ReviewDesk.Json.Scalar

namespace ReviewDesk.Json

namespace Reader

variable {α β σ : Type}

theorem run_bind_ok {p : Reader α} {f : α → Reader β} {s r : Bytes} {a : α}
    (h : p.run s = .ok (a, r)) : (p >>= f).run s = (f a).run r := by
  rw [run_bind, h]

theorem run_bind_eq_ok {p : Reader α} {f : α → Reader β} {s t : Bytes} {b : β} :
    (p >>= f).run s = .ok (b, t) ↔
      ∃ a r, p.run s = .ok (a, r) ∧ (f a).run r = .ok (b, t) := by
  rw [run_bind]
  constructor
  · intro h
    split at h
    · next a r hp => exact ⟨a, r, hp, h⟩
    · cases h
  · rintro ⟨a, r, hp, hf⟩
    rw [hp]
    exact hf

@[simp] theorem run_peek_bind (f : Option UInt8 → Reader β) (s : Bytes) :
    (peek >>= f).run s = (f s.head?).run s := rfl

@[simp] theorem run_next_bind (e : Fault) (f : UInt8 → Reader β) (b : UInt8) (s : Bytes) :
    (next e >>= f).run (b :: s) = (f b).run s := rfl

@[simp] theorem run_skip_bind (f : Unit → Reader β) (b : UInt8) (s : Bytes) :
    (skip >>= f).run (b :: s) = (f ()).run s := rfl

@[simp] theorem run_takeWhile_bind (p : UInt8 → Bool) (f : Bytes → Reader β) (s : Bytes) :
    (Reader.takeWhile p >>= f).run s = (f (s.takeWhile p)).run (s.dropWhile p) := rfl

@[simp] theorem run_ofExcept_ok_bind (a : α) (f : α → Reader β) (s : Bytes) :
    (ofExcept (.ok a) >>= f).run s = (f a).run s := rfl

theorem run_ofExcept_eq_ok {e : Except Fault α} {s t : Bytes} {a : α} :
    (ofExcept e).run s = .ok (a, t) ↔ e = .ok a ∧ t = s := by
  cases e with
  | error f =>
      constructor
      · intro h
        cases h
      · rintro ⟨⟨⟩, -⟩
  | ok b =>
      constructor
      · intro h
        cases h
        exact ⟨rfl, rfl⟩
      · rintro ⟨⟨⟩, rfl⟩
        rfl

/-! ### Faults -/

/-- A reader that never answers. -/
def Never (p : Reader α) : Prop :=
  ∀ ⦃s a t⦄, p.run s ≠ .ok (a, t)

theorem never_fail (e : Fault) : (fail e : Reader α).Never := by
  intro s a t h
  cases h

theorem never_bind (p : Reader α) {f : α → Reader β} (hf : ∀ a, (f a).Never) :
    (p >>= f).Never := by
  intro s b t h
  obtain ⟨a, r, -, hrun⟩ := run_bind_eq_ok.mp h
  exact hf a hrun

theorem never_mismatch (expected : String) : (mismatch expected : Reader α).Never := by
  refine never_bind _ fun o => ?_
  cases o with
  | none => exact never_fail _
  | some b =>
      dsimp only
      split
      · refine never_bind _ fun n => ?_
        cases n <;> exact never_fail _
      · refine never_bind _ fun _ => ?_
        repeat' split
        all_goals first
          | exact never_fail _
          | exact never_bind _ fun _ => never_fail _

/-! ### Repetition -/

section

variable {step : σ → Reader (σ ⊕ α)} {strict : ∀ st, (step st).Strict} {st : σ} {s r : Bytes}

theorem run_iterate_inl {st' : σ} (h : (step st).run s = .ok (.inl st', r)) :
    (iterate step strict st).run s = (iterate step strict st').run r := by
  show iterateFrom step strict st s = iterateFrom step strict st' r
  rw [iterateFrom]
  split
  · next e he => rw [h] at he; cases he
  · next a r' ha => rw [h] at ha; cases ha
  · next st'' r' hs => rw [h] at hs; cases hs; rfl

theorem run_iterate_inr {a : α} (h : (step st).run s = .ok (.inr a, r)) :
    (iterate step strict st).run s = .ok (a, r) := by
  show iterateFrom step strict st s = _
  rw [iterateFrom]
  split
  · next e he => rw [h] at he; cases he
  · next b r' hb => rw [h] at hb; cases hb; rfl
  · next st' r' hs => rw [h] at hs; cases hs

end

/-! ### Answers -/

/-- What a reader answers and leaves.  Where it does not answer, the fault it met plays no
part. -/
def answer (p : Reader α) (s : Bytes) : Option (α × Bytes) :=
  (p.run s).toOption

section

variable {p : Reader α} {s t : Bytes} {a : α}

theorem answer_of_run (h : p.run s = .ok (a, t)) : p.answer s = some (a, t) := by
  rw [answer, h]
  rfl

theorem run_of_answer (h : p.answer s = some (a, t)) : p.run s = .ok (a, t) := by
  unfold answer at h
  cases hrun : p.run s with
  | error e =>
      rw [hrun] at h
      cases h
  | ok x =>
      rw [hrun] at h
      cases h
      rfl

theorem Never.answer (h : p.Never) (s : Bytes) : p.answer s = none := by
  cases hanswer : p.answer s with
  | none => rfl
  | some x => exact (h (run_of_answer hanswer)).elim

theorem answer_bind (p : Reader α) (f : α → Reader β) (s : Bytes) :
    (p >>= f).answer s = (p.answer s).bind fun x => (f x.1).answer x.2 := by
  simp only [answer, run_bind]
  cases p.run s <;> rfl

theorem answer_bind_of_run {f : α → Reader β} (h : p.run s = .ok (a, t)) :
    (p >>= f).answer s = (f a).answer t := by
  rw [answer, run_bind_ok h, answer]

theorem answer_ofExcept (e : Except Fault α) (s : Bytes) :
    (ofExcept e).answer s = e.toOption.map (·, s) := by
  cases e <;> rfl

/-- A repetition takes its first step and goes on from there. -/
theorem answer_iterate (step : σ → Reader (σ ⊕ α)) (strict : ∀ st, (step st).Strict) (st : σ)
    (s : Bytes) :
    (iterate step strict st).answer s = ((step st).answer s).bind fun x =>
      match x with
      | (.inl st', r) => (iterate step strict st').answer r
      | (.inr a, r) => some (a, r) := by
  cases hstep : (step st).answer s with
  | some x =>
      obtain ⟨st' | a, r⟩ := x
      · rw [answer, run_iterate_inl (run_of_answer hstep)]
        rfl
      · rw [answer, run_iterate_inr (run_of_answer hstep)]
        rfl
  | none =>
      -- A fault in the first step is a fault of the whole, though nothing says which.
      rw [Option.bind_none, answer]
      show (iterateFrom step strict st s).toOption = none
      rw [iterateFrom]
      split
      · rfl
      · next hrun => rw [answer_of_run hrun] at hstep; cases hstep
      · next hrun => rw [answer_of_run hrun] at hstep; cases hstep

end

/-! ### Words -/

/-- A word is read off its own letters, whatever follows. -/
theorem run_word (cs : List Char) (t : Bytes) :
    (word cs).run (cs.map ascii ++ t) = .ok ((), t) := by
  induction cs with
  | nil => rfl
  | cons c cs ih =>
      show (word (c :: cs)).run (ascii c :: (cs.map ascii ++ t)) = _
      rw [word, run_next_bind, beq_self_eq_true, if_pos rfl]
      exact ih

theorem run_next_eq_ok {e : Fault} {s t : Bytes} {b : UInt8} (h : (next e).run s = .ok (b, t)) :
    s = b :: t := by
  cases s with
  | nil => cases h
  | cons c r =>
      cases h
      rfl

/-- What was read as a word begins with its letters. -/
theorem word_of_run {cs : List Char} {s t : Bytes} (h : (word cs).run s = .ok ((), t)) :
    s = cs.map ascii ++ t := by
  induction cs generalizing s with
  | nil =>
      cases h
      rfl
  | cons c cs ih =>
      obtain ⟨b, r, hb, h₁⟩ := run_bind_eq_ok.mp h
      obtain rfl := run_next_eq_ok hb
      cases hc : b == ascii c with
      | false =>
          rw [hc, if_neg Bool.false_ne_true] at h₁
          cases h₁
      | true =>
          rw [hc, if_pos rfl] at h₁
          rw [eq_of_beq hc, ih h₁]
          rfl

end Reader

end ReviewDesk.Json
