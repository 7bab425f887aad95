/-
What the record of a run says.

These are the words in which runs are spoken about: which step made a call, which
answered it, which cleared the desk, and what has been so since.  They look at what was
done and at what it answered, never at a generation or at a ticket.

`Timely` is the one condition that any of the later statements has.  The generation has
64 bits and starts over, so a call that is answered after 2^64 further submissions and
clears may meet its own generation again.  A record is timely if no call waits that long
for its answer; in particular it is if there are fewer submissions and clears in all.
`overdue_applied` says what happens otherwise.
-/
import ReviewDesk.Proofs.Desk.Step

namespace ReviewDesk.Desk

namespace Step

/-- The submission was accepted and became this call. -/
def makes (id : Nat) (s : Step) : Bool :=
  match s.action, s.answer with
  | .submit, .pending i => i == id
  | _, _ => false

/-- A submission was accepted. -/
def isCall (s : Step) : Bool :=
  match s.action, s.answer with
  | .submit, .pending _ => true
  | _, _ => false

def isClear (s : Step) : Bool :=
  match s.action with
  | .clear => true
  | _ => false

/-- The service answered this call. -/
def answers (id : Nat) (s : Step) : Bool :=
  match s.action, s.answer with
  | .settle i _, .applied => i == id
  | .settle i _, .superseded => i == id
  | _, _ => false

/-- The call was answered, or the one who waited for it walked away. -/
def closes (id : Nat) (s : Step) : Bool :=
  match s.action, s.answer with
  | .abandon i, .done => i == id
  | _, _ => s.answers id

/-- The text of an edit that was accepted. -/
def edit? (s : Step) : Option String :=
  match s.action, s.answer with
  | .setCode code, .edited true => some code
  | _, _ => none

/-- The step moves the generation. -/
def advances (s : Step) : Bool :=
  s.isCall || s.isClear

theorem isCall_of_makes {s : Step} {id : Nat} (h : s.makes id = true) : s.isCall = true := by
  unfold makes at h
  unfold isCall
  split at h
  · rfl
  · simp at h

theorem answers_of_applied {s : Step} {id : Nat} {o : Outcome}
    (ha : s.action = .settle id o) (happlied : s.answer = .applied) :
    s.answers id = true := by
  unfold answers
  rw [ha, happlied]
  exact beq_self_eq_true id

theorem closes_of_answers {s : Step} {id : Nat} (h : s.answers id = true) :
    s.closes id = true := by
  unfold closes
  split
  · next ha hb => simp [answers, ha] at h
  · exact h

end Step

/-! ### What has been so since -/

/-- The call was made, and neither answered nor abandoned since. -/
def Out (id : Nat) (h : List Step) : Prop :=
  Since (fun s => s.makes id = true) (fun s => s.closes id = false) h

/-- The call was made, and the desk was not cleared since. -/
def Uncleared (id : Nat) (h : List Step) : Prop :=
  Since (fun s => s.makes id = true) (fun s => s.isClear = false) h

/-- The call is the last one that was made. -/
def Latest (id : Nat) (h : List Step) : Prop :=
  Since (fun s => s.makes id = true) (fun s => s.isCall = false) h

/-- The call is the last one that was made, and since then it was not answered and the
desk was not cleared. -/
def Awaited (id : Nat) (h : List Step) : Prop :=
  Since (fun s => s.makes id = true)
    (fun s => s.isCall = false ∧ s.isClear = false ∧ s.answers id = false) h

/-- The call was made, and the desk was cleared since. -/
def cleared (id : Nat) : List Step → Bool
  | [] => false
  | s :: later => (s.makes id && later.any Step.isClear) || cleared id later

/-- How many submissions were accepted and how often the desk was cleared. -/
def advances (h : List Step) : Nat :=
  h.countP Step.advances

/-- No answer came so late that 2^64 submissions and clears had followed its call. -/
def Timely (h : List Step) : Prop :=
  ∀ older made between settled rest id,
    h = older ++ made :: (between ++ settled :: rest) →
    made.makes id = true → settled.answers id = true → advances between < UInt64.size

/-! ### Lemmas on records -/

variable {h k older later : List Step} {s made : Step} {id i j : Nat}

@[simp] theorem advances_nil : advances [] = 0 := rfl

theorem advances_append : advances (h ++ k) = advances h + advances k :=
  List.countP_append

theorem advances_cons : advances (s :: h) = advances h + if s.advances then 1 else 0 :=
  List.countP_cons

theorem advances_eq_zero :
    advances h = 0 ↔ ∀ s ∈ h, s.isCall = false ∧ s.isClear = false := by
  simp [advances, List.countP_eq_zero, Step.advances]

theorem Timely.of_append (ht : Timely (h ++ k)) : Timely h := by
  intro older made between settled rest id hh
  exact ht older made between settled (rest ++ k) id (by simp [hh])

theorem timely_of_advances_lt (hb : advances h < UInt64.size) : Timely h := by
  intro older made between settled rest id hh _ _
  subst hh
  simp only [advances_append, advances_cons] at hb
  omega

/-- Between a call and the answer that ends the record. -/
theorem Timely.between (ht : Timely (h ++ [s])) (hh : h = older ++ made :: later)
    (hmade : made.makes id = true) (hs : s.answers id = true) :
    advances later < UInt64.size :=
  ht older made later s [] id (by simp [hh]) hmade hs

theorem cleared_iff :
    cleared id h = true ↔
      ∃ older made later, h = older ++ made :: later ∧ made.makes id = true ∧
        ∃ t ∈ later, t.isClear = true := by
  induction h with
  | nil => simp [cleared]
  | cons s h ih =>
      rw [cleared, Bool.or_eq_true, Bool.and_eq_true, List.any_eq_true, ih]
      constructor
      · rintro (⟨hmade, hclear⟩ | ⟨older, made, later, rfl, hmade, hclear⟩)
        · exact ⟨[], s, h, rfl, hmade, hclear⟩
        · exact ⟨s :: older, made, later, rfl, hmade, hclear⟩
      · rintro ⟨older, made, later, hh, hmade, hclear⟩
        cases older with
        | nil =>
            obtain ⟨rfl, rfl⟩ := List.cons.inj hh
            exact .inl ⟨hmade, hclear⟩
        | cons t older =>
            obtain ⟨rfl, rfl⟩ := List.cons.inj hh
            exact .inr ⟨older, made, later, rfl, hmade, hclear⟩

theorem cleared_snoc :
    cleared id (h ++ [s]) = (cleared id h || (h.any (Step.makes id) && s.isClear)) := by
  induction h with
  | nil => simp [cleared]
  | cons t h ih =>
      rw [List.cons_append, cleared, cleared, ih]
      simp only [List.any_append, List.any_cons, List.any_nil, Bool.or_false]
      cases t.makes id <;> cases s.isClear <;> simp [Bool.or_comm]

theorem Awaited.latest (hw : Awaited id h) : Latest id h :=
  hw.imp (fun _ hs => hs) (fun _ hs => hs.1)

theorem Step.makes_unique (hi : s.makes i = true) (hj : s.makes j = true) : i = j := by
  unfold makes at hi hj
  split at hi
  · next id ha hb =>
      rw [ha, hb] at hj
      simp only [beq_iff_eq] at hi hj
      exact hi.symm.trans hj
  · simp at hi

/-- There is one call that was made last. -/
theorem latest_unique (hi : Latest i h) (hj : Latest j h) : i = j := by
  obtain ⟨older, s, later, rfl, hs, hlater⟩ := hi
  obtain ⟨older', t, later', hh, ht, hlater'⟩ := hj
  have hst : s = t := by
    refine last_unique (r := fun s => s.isCall = true) hh (Step.isCall_of_makes hs)
      (Step.isCall_of_makes ht) ?_ ?_
    · intro z hz
      simp [hlater z hz]
    · intro z hz
      simp [hlater' z hz]
  subst hst
  exact Step.makes_unique hs ht

end ReviewDesk.Desk
