/-
The shortest decimal of a positive double has a digit to begin with.

Zero does not round to a positive double, so whatever is found as its shortest decimal is
not zero either.  That is all that is needed for its text to have the form of a number: the
first digit is no zero, and the zeros at the end can be taken away with something left.
-/
import Mathlib.Data.List.TakeWhile
import ReviewDesk.Proofs.Decimal.Text

namespace ReviewDesk.Decimal

namespace Binary

variable {b : Binary}

theorem binarySide_pos {a : Nat} (h : 0 < a) (g p : Int) : 0 < binarySide a g p := by
  have htwo : 0 < Nat.pow 2 p.toNat := Nat.pow_pos (by decide)
  have hten : 0 < Nat.pow 10 (-g).toNat := Nat.pow_pos (by decide)
  exact Nat.mul_pos (Nat.mul_pos h htwo) hten

theorem not_holds_zero (h : 0 < b.m) (g : Int) : b.holds 0 g = false := by
  have hside : decimalSide 0 g (b.q - 2) = 0 := by simp [decimalSide]
  have hlow : 0 < binarySide (4 * b.m - (if b.binadeStart then 1 else 2)) g (b.q - 2) := by
    refine binarySide_pos ?_ _ _
    split <;> omega
  unfold holds
  dsimp only
  rw [hside]
  split
  · rw [decide_eq_false (Nat.not_le_of_lt hlow), Bool.false_and]
  · rw [decide_eq_false (Nat.not_lt_zero _), Bool.false_and]

theorem pos_of_holds (h : 0 < b.m) {k : Nat} {g : Int} (hk : b.holds k g = true) : 0 < k := by
  refine Nat.pos_of_ne_zero ?_
  rintro rfl
  rw [not_holds_zero h] at hk
  cases hk

theorem withDigits?_pos (h : 0 < b.m) {n : Nat} {s : Scaled} (hs : b.withDigits? n = some s) :
    0 < s.k := by
  unfold withDigits? at hs
  dsimp only at hs
  split at hs
  · next hbelow _ =>
    split at hs
    · cases hs
      exact pos_of_holds h hbelow
    · cases hs
      exact Nat.succ_pos _
  · next hbelow _ =>
    cases hs
    exact pos_of_holds h hbelow
  · cases hs
    exact Nat.succ_pos _
  · cases hs

theorem shortest_pos (h : 0 < b.m) : 0 < b.shortest.k := by
  unfold shortest
  cases hfound : (List.range' 1 17).findSome? b.withDigits? with
  | none => exact h
  | some s =>
      obtain ⟨n, -, hn⟩ := List.exists_of_findSome?_eq_some hfound
      exact withDigits?_pos h hn

/-- Bits that are not all zero are those of a positive significand. -/
theorem ofBits_pos {bits : UInt64} (hbits : bits ≠ 0) (hsign : bits.toNat < fractions * 0x800) :
    0 < (ofBits bits).m := by
  have hfractions : 0 < fractions := by decide
  have hne : bits.toNat ≠ 0 := fun h => hbits (UInt64.toNat_inj.mp h)
  unfold ofBits
  dsimp only
  split
  · next hexponent =>
    have hquotient : bits.toNat / fractions < 0x800 := Nat.div_lt_of_lt_mul hsign
    rw [Nat.mod_eq_of_lt hquotient] at hexponent
    have hdivision := Nat.div_add_mod bits.toNat fractions
    rw [hexponent, Nat.mul_zero, Nat.zero_add] at hdivision
    show 0 < bits.toNat % fractions
    omega
  · exact Nat.add_pos_left hfractions _

end Binary

/-! ### Digits without zeros at either end -/

/-- Digits that a number can begin with. -/
structure Leading (ds : List Char) : Prop where
  digits : ∀ c ∈ ds, c ∈ digitChars
  some : ds ≠ []
  zero : ds.head? ≠ Option.some '0'

theorem leading_digits {k : Nat} (h : 0 < k) : Leading (digits k) where
  digits _ := mem_digitChars_of_mem_digits
  some := digits_ne_nil k
  zero hzero := by
    have hvalue := congrArg value (digits_of_head_zero hzero)
    rw [value_digits] at hvalue
    have hnone : value ['0'] = 0 := by decide
    omega

/-- The zeros at the end of digits may go. -/
theorem Leading.stripped {ds : List Char} (h : Leading ds) :
    Leading (ds.reverse.dropWhile (· = '0')).reverse := by
  obtain ⟨zeros, hzeros⟩ : ∃ zeros, (ds.reverse.dropWhile (· = '0')).reverse ++ zeros = ds := by
    refine ⟨(ds.reverse.takeWhile (· = '0')).reverse, ?_⟩
    rw [← List.reverse_append, List.takeWhile_append_dropWhile, List.reverse_reverse]
  obtain ⟨d, rest, rfl⟩ := List.exists_cons_of_ne_nil h.some
  have hd : d ≠ '0' := fun hd => h.zero (congrArg Option.some hd)
  have hsome : ((d :: rest).reverse.dropWhile (· = '0')).reverse ≠ [] := by
    intro hnil
    rw [List.reverse_eq_nil_iff, List.dropWhile_eq_nil_iff] at hnil
    exact hd (by simpa using hnil d (by simp))
  refine ⟨?_, hsome, ?_⟩
  · intro c hc
    exact h.digits c (hzeros ▸ List.mem_append_left _ hc)
  · intro hzero
    refine h.zero ?_
    rw [← hzeros, List.head?_append, hzero, Option.some_or]

/-- The digits that are written for a positive double. -/
theorem leading_ofPositive {b : Binary} (h : 0 < b.m) :
    Leading ((digits b.shortest.k).reverse.dropWhile (· = '0')).reverse :=
  (leading_digits (Binary.shortest_pos h)).stripped

end ReviewDesk.Decimal
