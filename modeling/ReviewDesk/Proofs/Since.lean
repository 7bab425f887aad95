/-
What has been so since.

A list read as a record of what happened, oldest first.  `Since p q` says that at some
entry `p` held and that `q` has held at every entry after it, so "not answered since it
was made" or "no clear since the last submission" are all of this form.  A record grows
at its end, and `since_snoc` is what an induction over it uses: either the new entry is
the one, or there was one already and the new entry keeps `q`.
-/

namespace ReviewDesk

variable {α : Type} {p q r : α → Prop} {x y : α} {l k older later : List α}

/-- At some entry `p` held, and at every entry after it `q`. -/
def Since (p q : α → Prop) (l : List α) : Prop :=
  ∃ older x later, l = older ++ x :: later ∧ p x ∧ ∀ y ∈ later, q y

/-- Where an entry of a record stands, once the record has grown. -/
theorem snoc_eq_iff :
    l ++ [y] = older ++ x :: later ↔
      (l = older ∧ y = x ∧ later = []) ∨
        ∃ later', later = later' ++ [y] ∧ l = older ++ x :: later' := by
  constructor
  · intro h
    rcases List.eq_nil_or_concat later with rfl | ⟨later', z, rfl⟩
    · obtain ⟨hl, hy⟩ := List.append_inj' h rfl
      exact .inl ⟨hl, by simpa using hy, rfl⟩
    · rw [List.concat_eq_append, ← List.cons_append, ← List.append_assoc] at h
      obtain ⟨hl, hy⟩ := List.append_inj' h rfl
      exact .inr ⟨later', by simp_all, hl⟩
  · rintro (⟨rfl, rfl, rfl⟩ | ⟨later', rfl, rfl⟩)
    · rfl
    · simp

theorem since_nil : ¬ Since p q [] := by
  rintro ⟨older, x, later, h, -⟩
  simp at h

theorem since_snoc : Since p q (l ++ [y]) ↔ p y ∨ (Since p q l ∧ q y) := by
  constructor
  · rintro ⟨older, x, later, h, hp, hq⟩
    rcases snoc_eq_iff.mp h with ⟨rfl, rfl, rfl⟩ | ⟨later', rfl, rfl⟩
    · exact .inl hp
    · refine .inr ⟨⟨older, x, later', rfl, hp, fun z hz => hq z (by simp [hz])⟩, ?_⟩
      exact hq y (by simp)
  · rintro (hp | ⟨⟨older, x, later, rfl, hp, hq⟩, hy⟩)
    · exact ⟨l, y, [], rfl, hp, by simp⟩
    · refine ⟨older, x, later ++ [y], by simp, hp, ?_⟩
      intro z hz
      rcases List.mem_append.mp hz with hz | hz
      · exact hq z hz
      · rwa [List.mem_singleton.mp hz]

theorem since_singleton : Since p q [y] ↔ p y := by
  have h := since_snoc (p := p) (q := q) (l := []) (y := y)
  simpa [since_nil] using h

theorem since_append :
    Since p q (l ++ k) ↔ Since p q k ∨ (Since p q l ∧ ∀ y ∈ k, q y) := by
  induction k generalizing l with
  | nil => simp [since_nil]
  | cons y k ih =>
      have hk : Since p q (y :: k) ↔ Since p q k ∨ p y ∧ ∀ z ∈ k, q z := by
        have h := ih (l := [y])
        rwa [since_singleton] at h
      rw [List.append_cons, ih, since_snoc, hk]
      simp only [List.forall_mem_cons]
      grind

theorem Since.imp {p' q' : α → Prop} (h : Since p q l) (hp : ∀ x, p x → p' x)
    (hq : ∀ x, q x → q' x) : Since p' q' l := by
  obtain ⟨older, x, later, hl, hx, hlater⟩ := h
  exact ⟨older, x, later, hl, hp x hx, fun y hy => hq y (hlater y hy)⟩

/-- The last entry with a property is one entry. -/
theorem last_unique {older' later' : List α}
    (h : older ++ x :: later = older' ++ y :: later') (hx : r x) (hy : r y)
    (hlater : ∀ z ∈ later, ¬ r z) (hlater' : ∀ z ∈ later', ¬ r z) : x = y := by
  rcases List.append_eq_append_iff.mp h with ⟨k, rfl, hk⟩ | ⟨k, rfl, hk⟩
  · cases k with
    | nil => exact (List.cons.inj hk).1
    | cons z k =>
        obtain ⟨-, rfl⟩ := List.cons.inj hk
        exact absurd hy (hlater y (by simp))
  · cases k with
    | nil => exact (List.cons.inj hk).1.symm
    | cons z k =>
        obtain ⟨-, rfl⟩ := List.cons.inj hk
        exact absurd hx (hlater' x (by simp))

end ReviewDesk
