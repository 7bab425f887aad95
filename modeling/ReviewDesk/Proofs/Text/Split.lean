/-
What a text is cut into.

`split` is the library's cut at every separator, and the library knows that joining the
parts gives the text back, and that parts without separators are what their join is cut
into.  What is added here is where the elements of the parts come from.
-/
import ReviewDesk.Text.Split

namespace ReviewDesk.Text

variable {α : Type} {sep : α}

/-! ### Joining -/

/-- A separator before each part, instead of between them. -/
theorem flatMap_sep {ps : List (List α)} (hne : ps ≠ []) :
    ps.flatMap (sep :: ·) = sep :: List.intercalate [sep] ps := by
  induction ps with
  | nil => exact absurd rfl hne
  | cons p ps ih =>
      cases ps with
      | nil => simp
      | cons q qs =>
          rw [List.flatMap_cons, ih (List.cons_ne_nil _ _), List.intercalate_cons_cons]
          simp

theorem mem_intercalate {ps : List (List α)} {c : α} (h : c ∈ List.intercalate [sep] ps) :
    c = sep ∨ ∃ p ∈ ps, c ∈ p := by
  have hne : ps ≠ [] := by
    rintro rfl
    simp at h
  have hjoined : c ∈ ps.flatMap (sep :: ·) := by
    rw [flatMap_sep hne]
    exact List.mem_cons_of_mem _ h
  obtain ⟨p, hp, hc⟩ := List.mem_flatMap.mp hjoined
  exact (List.mem_cons.mp hc).imp_right fun hc => ⟨p, hp, hc⟩

/-! ### Cutting -/

variable [DecidableEq α]

theorem split_eq_splitOn (sep : α) (s : List α) : split sep s = s.splitOn sep := by
  induction s with
  | nil => rfl
  | cons c cs ih =>
      rw [split, List.splitOn_cons_eq_if_modifyHead, ih]
      by_cases h : c = sep
      · rw [if_pos h, if_pos (beq_iff_eq.mpr h)]
      · rw [if_neg h, if_neg (mt beq_iff_eq.mp h)]
        cases hparts : cs.splitOn sep with
        | nil => exact absurd hparts (List.splitOn_ne_nil _ _)
        | cons p ps => rfl

theorem split_ne_nil (sep : α) (s : List α) : split sep s ≠ [] := by
  rw [split_eq_splitOn]
  exact List.splitOn_ne_nil _ _

/-- Joined again, the parts are the text. -/
theorem intercalate_split (sep : α) (s : List α) : List.intercalate [sep] (split sep s) = s := by
  rw [split_eq_splitOn]
  exact List.intercalate_splitOn sep

/-- What was joined is told apart again. -/
theorem split_intercalate {ps : List (List α)} (hne : ps ≠ []) (h : ∀ p ∈ ps, sep ∉ p) :
    split sep (List.intercalate [sep] ps) = ps := by
  rw [split_eq_splitOn]
  exact List.splitOn_intercalate sep h hne

/-- Without a separator there is one part. -/
theorem split_of_not_mem {s : List α} (h : sep ∉ s) : split sep s = [s] := by
  simpa using split_intercalate (List.cons_ne_nil s []) (List.forall_mem_singleton.mpr h)

theorem split_append_sep (s t : List α) :
    split sep (s ++ sep :: t) = split sep s ++ split sep t := by
  simp only [split_eq_splitOn, List.splitOn_append_cons_self]

theorem sep_not_mem {s p : List α} (h : p ∈ split sep s) : sep ∉ p := by
  induction s generalizing p with
  | nil =>
      rw [split, List.mem_singleton] at h
      simp [h]
  | cons c cs ih =>
      rw [split] at h
      split at h
      · rcases List.mem_cons.mp h with rfl | h
        · exact List.not_mem_nil
        · exact ih h
      · next hc =>
          cases hparts : split sep cs with
          | nil => exact absurd hparts (split_ne_nil _ _)
          | cons q qs =>
              rw [hparts] at h ih
              rcases List.mem_cons.mp h with rfl | h
              · simpa [Ne.symm hc] using ih (List.mem_cons_self ..)
              · exact ih (List.mem_cons_of_mem _ h)

theorem mem_of_mem_split {s p : List α} (h : p ∈ split sep s) {c : α} (hc : c ∈ p) : c ∈ s := by
  have hjoined : c ∈ sep :: s := by
    rw [← intercalate_split sep s, ← flatMap_sep (split_ne_nil _ _)]
    exact List.mem_flatMap.mpr ⟨p, h, List.mem_cons_of_mem _ hc⟩
  rcases List.mem_cons.mp hjoined with rfl | hmem
  · exact absurd hc (sep_not_mem h)
  · exact hmem

end ReviewDesk.Text
