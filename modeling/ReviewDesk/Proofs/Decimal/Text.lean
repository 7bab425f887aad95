/-
What printed numbers are made of.

An integer is digits, without a zero in front of others.  A double is made of digits,
signs, a point and the letter of the exponent, and it has the point or the letter: that
is what tells the two apart when they are read.
-/
import ReviewDesk.Decimal.Text

namespace ReviewDesk.Decimal

/-! ### Integers -/

/-- The ten digits. -/
def digitChars : List Char :=
  ['0', '1', '2', '3', '4', '5', '6', '7', '8', '9']

/-- What was checked of each of some characters holds of all of them. -/
theorem forall_of_all {cs : List Char} {P : Char → Prop} [DecidablePred P]
    (h : cs.all (fun c => decide (P c)) = true) : ∀ c ∈ cs, P c :=
  fun c hc => of_decide_eq_true (List.all_eq_true.mp h c hc)

theorem digitChar_mem {d : Nat} (h : d < 10) : digitChar d ∈ digitChars := by
  have all : ∀ e ∈ List.range 10, digitChar e ∈ digitChars := by decide
  exact all d (List.mem_range.mpr h)

theorem mem_digitChars_of_mem_digits {n : Nat} {c : Char} (h : c ∈ digits n) :
    c ∈ digitChars := by
  fun_induction digits n with
  | case1 n hn =>
      rw [List.mem_singleton] at h
      exact h ▸ digitChar_mem hn
  | case2 n hn ih =>
      rcases List.mem_append.mp h with h | h
      · exact ih h
      · rw [List.mem_singleton] at h
        exact h ▸ digitChar_mem (Nat.mod_lt n (by decide))

theorem digits_ne_nil (n : Nat) : digits n ≠ [] := by
  rw [digits]
  split <;> simp

/-- The first digit is zero in zero alone. -/
theorem digits_of_head_zero {n : Nat} (h : (digits n).head? = some '0') : digits n = ['0'] := by
  fun_induction digits n with
  | case1 n hn =>
      rw [List.head?_cons, Option.some.injEq] at h
      rw [h]
  | case2 n hn ih =>
      -- In front of the last digit there is a positive number, of which this is no digit.
      rw [List.head?_append, List.head?_eq_some_head (digits_ne_nil _), Option.some_or,
        ← List.head?_eq_some_head (digits_ne_nil _)] at h
      have hzero := congrArg value (ih h)
      rw [value_digits] at hzero
      have hvalue : value ['0'] = 0 := by decide
      omega

/-! ### Doubles -/

def floatChars : List Char :=
  digitChars ++ ['.', 'e', '+', '-']

/-- The text of a double, and of nothing that is an integer. -/
structure FloatText (cs : List Char) : Prop where
  chars : ∀ c ∈ cs, c ∈ floatChars
  mark : '.' ∈ cs ∨ 'e' ∈ cs

theorem mem_floatChars {c : Char} (h : c ∈ digitChars) : c ∈ floatChars :=
  List.mem_append_left _ h

theorem mem_floatChars_of_all {cs : List Char} (h : cs.all floatChars.contains = true) :
    ∀ c ∈ cs, c ∈ floatChars :=
  fun c hc => List.contains_iff_mem.mp (List.all_eq_true.mp h c hc)

theorem FloatText.append {cs ds : List Char} (hcs : ∀ c ∈ cs, c ∈ floatChars)
    (hds : FloatText ds) : FloatText (cs ++ ds) where
  chars c hc := by
    rcases List.mem_append.mp hc with h | h
    · exact hcs c h
    · exact hds.chars c h
  mark := hds.mark.imp (List.mem_append_right _) (List.mem_append_right _)

section

variable {ds : List Char} (hds : ∀ c ∈ ds, c ∈ digitChars) (e : Int)
include hds

theorem floatText_positional : FloatText (positional ds e) := by
  have hzeros : ∀ n, ∀ c ∈ List.replicate n '0', c ∈ floatChars := by
    intro n c hc
    rw [List.eq_of_mem_replicate hc]
    decide
  unfold positional
  dsimp only
  split
  · refine ⟨?_, .inl (by simp)⟩
    intro c hc
    simp only [List.mem_append] at hc
    rcases hc with (hc | hc) | hc
    · exact mem_floatChars_of_all (by decide) c hc
    · exact hzeros _ c hc
    · exact mem_floatChars (hds c hc)
  · split
    · rw [List.append_assoc]
      have hpoint : FloatText ['.', '0'] := ⟨mem_floatChars_of_all (by decide), by decide⟩
      exact .append (fun c hc => mem_floatChars (hds c hc)) (.append (hzeros _) hpoint)
    · refine ⟨?_, .inl (by simp)⟩
      intro c hc
      rcases List.mem_append.mp hc with hc | hc
      · exact mem_floatChars (hds c (List.mem_of_mem_take hc))
      · rcases List.mem_cons.mp hc with rfl | hc
        · decide
        · exact mem_floatChars (hds c (List.mem_of_mem_drop hc))

theorem floatText_scientific : FloatText (scientific ds e) := by
  have hletter : ∀ c ∈ ['e', if e < 0 then '-' else '+'], c ∈ floatChars := by
    split <;> exact mem_floatChars_of_all (by decide)
  have hexponent : FloatText (['e', if e < 0 then '-' else '+'] ++ digits e.natAbs) := by
    refine ⟨?_, .inr (by simp)⟩
    intro c hc
    rcases List.mem_append.mp hc with hc | hc
    · exact hletter c hc
    · exact mem_floatChars (mem_digitChars_of_mem_digits hc)
  have hdigits : ∀ c ∈ ds, c ∈ floatChars := fun c hc => mem_floatChars (hds c hc)
  unfold scientific
  rw [List.append_assoc]
  rcases ds with _ | ⟨d, _ | ⟨d', rest⟩⟩
  · exact hexponent
  · exact .append hdigits hexponent
  · have hpoint : '.' ∈ floatChars := by decide
    rw [List.forall_mem_cons] at hdigits
    refine .append ?_ hexponent
    exact List.forall_mem_cons.mpr ⟨hdigits.1, List.forall_mem_cons.mpr ⟨hpoint, hdigits.2⟩⟩

end

theorem floatText_ofPositive (b : Binary) : FloatText (ofPositive b) := by
  have hds : ∀ c ∈ ((digits b.shortest.k).reverse.dropWhile (· = '0')).reverse,
      c ∈ digitChars := by
    intro c hc
    have hmem := (List.dropWhile_sublist _).subset (List.mem_reverse.mp hc)
    exact mem_digitChars_of_mem_digits (List.mem_reverse.mp hmem)
  unfold ofPositive
  dsimp only
  split
  · exact floatText_positional hds _
  · exact floatText_scientific hds _

/-- A finite double is neither infinite nor no number at all. -/
theorem not_nan_of_isFinite {x : Float} (h : x.isFinite = true) :
    x.isNaN = false ∧ x.isInf = false := by
  unfold Float.isFinite Float.Model.isFinite at h
  unfold Float.isNaN Float.isInf Float.Model.isNaN Float.Model.isInf
  cases hx : x.toModel.unpack with
  | zero => exact ⟨rfl, rfl⟩
  | finite => exact ⟨rfl, rfl⟩
  | _ =>
      rw [hx] at h
      cases h

theorem floatText_ofFloat {x : Float} (h : x.isFinite = true) :
    FloatText (ofFloat x).toList := by
  obtain ⟨hnan, hinf⟩ := not_nan_of_isFinite h
  unfold ofFloat
  simp only [hnan, hinf, Bool.false_eq_true, if_false, String.toList_ofList]
  refine .append ?_ ?_
  · split <;> exact mem_floatChars_of_all (by decide)
  · split
    · exact ⟨mem_floatChars_of_all (by decide), by decide⟩
    · exact floatText_ofPositive _

end ReviewDesk.Decimal
