/-
What can be read back from lines of text.

A line is over at its line feed, a figure at the first character that is no digit, the
padding in front of a figure at the first character that is no space.  All three are one
fact: of two rows that are the same, the parts up to where something new begins are the
same (`leading_unique`).
-/
import ReviewDesk.Display.Sheet
import ReviewDesk.Proofs.Decimal.Text

namespace ReviewDesk

/-- Everything up to the first thing of another kind. -/
theorem leading_unique {α : Type} {p : α → Bool} {as as' t t' : List α}
    (has : ∀ a ∈ as, p a = true) (has' : ∀ a ∈ as', p a = true)
    (ht : ∀ a ∈ t.head?, p a = false) (ht' : ∀ a ∈ t'.head?, p a = false)
    (h : as ++ t = as' ++ t') : as = as' ∧ t = t' := by
  have hspan : ∀ {bs u : List α}, (∀ b ∈ bs, p b = true) → (∀ b ∈ u.head?, p b = false) →
      (bs ++ u).takeWhile p = bs := by
    intro bs u hbs hu
    rw [List.takeWhile_append_of_pos hbs]
    cases u with
    | nil => simp
    | cons b u => simp [hu b rfl]
  have hleading := hspan has ht
  rw [h, hspan has' ht'] at hleading
  subst hleading
  exact ⟨rfl, List.append_cancel_left h⟩

namespace Display

/-! ### Lines -/

/-- Text that stays on one line. -/
def Unbroken (s : List Char) : Prop :=
  '\n' ∉ s

theorem Unbroken.append {s t : List Char} (hs : Unbroken s) (ht : Unbroken t) :
    Unbroken (s ++ t) := by
  intro h
  rcases List.mem_append.mp h with h | h
  · exact hs h
  · exact ht h

theorem line_append_unique {s s' t t' : List Char} (hs : Unbroken s) (hs' : Unbroken s')
    (h : line s ++ t = line s' ++ t') : s = s' ∧ t = t' := by
  have hkept : ∀ {u : List Char}, Unbroken u → ∀ c ∈ u, (c != '\n') = true := by
    intro u hu c hc
    rw [bne_iff_ne]
    rintro rfl
    exact hu hc
  simp only [line, List.append_assoc, List.singleton_append] at h
  obtain ⟨hline, hrest⟩ := leading_unique (hkept hs) (hkept hs') (by simp) (by simp) h
  exact ⟨hline, List.tail_eq_of_cons_eq hrest⟩

/-- The lines of a text can be told. -/
theorem flatMap_line_unique {ls ls' : List (List Char)} (hls : ∀ s ∈ ls, Unbroken s)
    (hls' : ∀ s ∈ ls', Unbroken s) (h : ls.flatMap line = ls'.flatMap line) : ls = ls' := by
  induction ls generalizing ls' with
  | nil =>
      cases ls' with
      | nil => rfl
      | cons s' ls' => simp [line] at h
  | cons s ls ih =>
      cases ls' with
      | nil => simp [line] at h
      | cons s' ls' =>
          rw [List.flatMap_cons, List.flatMap_cons] at h
          obtain ⟨rfl, hrest⟩ := line_append_unique (hls s (by simp)) (hls' s' (by simp)) h
          rw [ih (fun u hu => hls u (by simp [hu])) (fun u hu => hls' u (by simp [hu])) hrest]

/-! ### Figures -/

section

open Decimal

variable {m n : Nat} {t t' : List Char}

theorem isDigit_of_mem_digits {c : Char} (h : c ∈ digits n) : isDigit c = true := by
  have all : digitChars.all isDigit = true := by decide
  exact List.all_eq_true.mp all c (mem_digitChars_of_mem_digits h)

theorem unbroken_digits (n : Nat) : Unbroken (digits n) := by
  intro h
  have hdigit := isDigit_of_mem_digits h
  revert hdigit
  decide

/-- A number followed by something else than a digit. -/
theorem digits_append_unique (ht : ∀ c ∈ t.head?, isDigit c = false)
    (ht' : ∀ c ∈ t'.head?, isDigit c = false) (h : digits m ++ t = digits n ++ t') :
    m = n ∧ t = t' := by
  obtain ⟨hdigits, hrest⟩ := leading_unique (fun _ => isDigit_of_mem_digits)
    (fun _ => isDigit_of_mem_digits) ht ht' h
  have hvalue := congrArg value hdigits
  rw [value_digits, value_digits] at hvalue
  exact ⟨hvalue, hrest⟩

theorem head_digits_append (n : Nat) (t : List Char) :
    ∀ c ∈ (digits n ++ t).head?, (c == ' ') = false := by
  intro c hc
  rw [List.head?_append, List.head?_eq_some_head (digits_ne_nil n), Option.some_or,
    ← List.head?_eq_some_head (digits_ne_nil n)] at hc
  have hdigit := isDigit_of_mem_digits (List.mem_of_mem_head? hc)
  rw [beq_eq_false_iff_ne]
  rintro rfl
  revert hdigit
  decide

/-- The padding in front of a number hides none of it, however long it is. -/
theorem padLeft_append_unique {width : Nat} (ht : ∀ c ∈ t.head?, isDigit c = false)
    (ht' : ∀ c ∈ t'.head?, isDigit c = false)
    (h : padLeft width (digits m) ++ t = padLeft width (digits n) ++ t') : m = n ∧ t = t' := by
  have hspaces : ∀ k, ∀ c ∈ List.replicate k ' ', (c == ' ') = true := by
    intro k c hc
    rw [List.eq_of_mem_replicate hc]
    rfl
  simp only [padLeft, List.append_assoc] at h
  obtain ⟨-, hnumber⟩ := leading_unique (hspaces _) (hspaces _) (head_digits_append m t)
    (head_digits_append n t') h
  exact digits_append_unique ht ht' hnumber

end

end Display

end ReviewDesk
