/-
Runs told with their steps.

A step is what was found, what was done, what that answered and what it left.  A run of any
machine can be told with its steps, and it falls where its actions fall (`run_append`,
`steps_append`).

`History move start h s` says that the steps `h`, oldest first, led from `start` to `s`, and
that each of them is a move.  Of a machine that takes no step but moves it is the same as a
run, and it grows at the end, which is where an invariant about what has happened so far is
extended.
-/
import Mathlib.Data.List.Forall2
import ReviewDesk.Run
import ReviewDesk.Proofs.Since

namespace ReviewDesk

/-- One step of a run. -/
structure Step (σ α β : Type) where
  before : σ
  action : α
  answer : β
  after : σ

variable {σ α β : Type}

/-- The steps that satisfy `move`, oldest first, that led from `start` to a state. -/
inductive History (move : Step σ α β → Prop) (start : σ) : List (Step σ α β) → σ → Prop
  | nil : History move start [] start
  | snoc {h : List (Step σ α β)} {s : Step σ α β} (past : History move start h s.before)
      (hm : move s) : History move start (h ++ [s]) s.after

/-- What comes before a step is the history of the state that the step found. -/
theorem History.before {move : Step σ α β → Prop} {start s : σ}
    {h older rest : List (Step σ α β)} {t : Step σ α β} (past : History move start h s)
    (hh : h = older ++ t :: rest) : History move start older t.before ∧ move t := by
  induction past generalizing rest with
  | nil => simp at hh
  | @snoc h t past hm ih =>
      rcases snoc_eq_iff.mp hh with ⟨rfl, rfl, -⟩ | ⟨rest', -, rfl⟩
      · exact ⟨past, hm⟩
      · exact ih rfl

section

variable (step : σ → α → σ × β)

/-- The step that an action leads to. -/
def stepOf (s : σ) (a : α) : Step σ α β :=
  ⟨s, a, (step s a).2, (step s a).1⟩

@[simp] theorem stepOf_before (s : σ) (a : α) : (stepOf step s a).before = s := rfl

@[simp] theorem stepOf_action (s : σ) (a : α) : (stepOf step s a).action = a := rfl

@[simp] theorem stepOf_answer (s : σ) (a : α) : (stepOf step s a).answer = (step s a).2 := rfl

@[simp] theorem stepOf_after (s : σ) (a : α) : (stepOf step s a).after = (step s a).1 := rfl

/-- The steps of a run, oldest first. -/
def stepsOf (s : σ) : List α → List (Step σ α β)
  | [] => []
  | a :: as => stepOf step s a :: stepsOf (step s a).1 as

theorem runOf_append (s : σ) (as bs : List α) :
    (runOf step s (as ++ bs)).1 = (runOf step (runOf step s as).1 bs).1 := by
  induction as generalizing s with
  | nil => rfl
  | cons a as ih => exact ih (step s a).1

variable {step} in
/-- Actions that a machine cannot tell apart lead to the same runs. -/
theorem runOf_congr {r : α → α → Prop} (hstep : ∀ ⦃a a'⦄, r a a' → ∀ s, step s a = step s a')
    {as as' : List α} (h : List.Forall₂ r as as') (s : σ) :
    runOf step s as = runOf step s as' := by
  induction h generalizing s with
  | nil => rfl
  | cons ha _ ih => simp only [runOf, hstep ha, ih]

theorem stepsOf_append (s : σ) (as bs : List α) :
    stepsOf step s (as ++ bs) = stepsOf step s as ++ stepsOf step (runOf step s as).1 bs := by
  induction as generalizing s with
  | nil => rfl
  | cons a as ih => exact congrArg _ (ih (step s a).1)

variable {step} {move : Step σ α β → Prop}

theorem action_mem_of_mem_stepsOf {s : σ} {as : List α} {t : Step σ α β}
    (h : t ∈ stepsOf step s as) : t.action ∈ as := by
  induction as generalizing s with
  | nil => simp [stepsOf] at h
  | cons a as ih =>
      rcases List.mem_cons.mp h with rfl | h
      · exact List.mem_cons_self
      · exact List.mem_cons_of_mem _ (ih h)

/-- A step that is given by its parts. -/
theorem move_of_eq {s s' : σ} {a : α} {answer : β} (h : step s a = (s', answer))
    (hm : move ⟨s, a, answer, s'⟩) : move (stepOf step s a) := by
  unfold stepOf
  rw [h]
  exact hm

/-- A run from a state with a history extends the history. -/
theorem History.append {start s : σ} {h : List (Step σ α β)}
    (hstep : ∀ s a, move (stepOf step s a)) (past : History move start h s) (as : List α) :
    History move start (h ++ stepsOf step s as) (runOf step s as).1 := by
  induction as generalizing h s with
  | nil => simpa [stepsOf, runOf] using past
  | cons a as ih =>
      have hnext : History move start (h ++ [stepOf step s a]) (step s a).1 :=
        past.snoc (hstep s a)
      have hrest := ih hnext
      rwa [List.append_assoc, List.singleton_append] at hrest

end

end ReviewDesk
