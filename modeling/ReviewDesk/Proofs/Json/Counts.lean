/-
Whole numbers in the one way they may be written.

A number is taken for a whole one up to a bound of 64 bits only if it is written with digits
alone and no zero in front of others, and then for the number they spell (`natUpTo?_num`).
Every other literal leaves the whole numbers somewhere: a point, an exponent and a digit too
many for 64 bits make a double, and a sign makes a number below zero, or for zero a double as
well.

Digits like that are what is printed for the number (`Spells.eq_digits`), so a number that was
taken is printed as it was written.
-/
import Mathlib.Data.List.Induction
import ReviewDesk.Proofs.Json.Meaning
import ReviewDesk.Proofs.Json.Printed
import ReviewDesk.Proofs.Json.Unambiguous

namespace ReviewDesk.Json

open Decimal (digitChar)

/-- Decimal digits for this number, without a sign and without a zero in front of others. -/
structure Spells (t : Bytes) (n : Nat) : Prop where
  some : t ≠ []
  digits : ∀ d ∈ t, isDigit d = true
  zero : t.head? = Option.some (ascii '0') → t = [ascii '0']
  value : digitsValue t = n

variable {l : Literal} {t t' : Bytes} {n bound : Nat}

/-! ### Literals without sign, point and exponent -/

theorem Spells.literalOf (h : Spells t n) : LiteralOf ⟨false, t, [], none⟩ t [] :=
  .mk .plus ⟨⟨h.some, h.digits, (List.append_nil t).symm⟩, h.zero⟩ .none .none

/-- Digits that spell a number are no other literal. -/
theorem Spells.literal_eq (h : Spells t n) (hl : LiteralOf l t []) : l = ⟨false, t, [], none⟩ :=
  (h.literalOf.unique hl nofun nofun).1

theorem spells_of_literalOf {whole : Bytes} (h : LiteralOf ⟨false, whole, [], none⟩ t []) :
    t = whole ∧ Spells t (digitsValue t) := by
  cases h with
  | mk hsign hwhole hfraction hexponent =>
    cases hsign
    cases hexponent
    cases hfraction with
    | point hds => exact absurd rfl hds.some
    | none =>
      obtain ⟨⟨hsome, hall, rfl⟩, hzero⟩ := hwhole
      rw [List.append_nil]
      exact ⟨rfl, hsome, hall, hzero, rfl⟩

/-- A literal that spells a number is written in one way only. -/
theorem Spells.text_unique (h : Spells t n) (hl : LiteralOf l t []) (hl' : LiteralOf l t' []) :
    t' = t := by
  rw [h.literal_eq hl] at hl'
  exact (spells_of_literalOf hl').1

/-! ### Literals that are whole numbers -/

theorem foldl_of_absorb {m : Nat} {ds : Bytes} (h : absorb m ds = (n, [])) :
    ds.foldl (fun n d => n * 10 + digitValue d) m = n := by
  induction ds generalizing m with
  | nil => exact congrArg Prod.fst h
  | cons d ds ih =>
      rw [absorb] at h
      split at h
      · exact ih h
      · cases h

/-- An integer is written without point and exponent, and all its digits fit. -/
theorem Literal.plain_of_value {i : Int} (h : l.value = .ok (.int i)) :
    l.fraction = [] ∧ l.exponent = none ∧ integer l.negative (digitsValue l.whole) = .int i := by
  have hplain : l.fraction = [] ∧ l.exponent = none := by
    by_contra hmark
    obtain ⟨x, hx⟩ := Literal.double_of_value h hmark
    cases hx
  obtain ⟨hfraction, hexponent⟩ := hplain
  refine ⟨hfraction, hexponent, ?_⟩
  unfold Literal.value at h
  cases habsorb : absorb 0 l.whole with
  | mk head dropped =>
      rw [habsorb, hfraction, hexponent] at h
      cases dropped with
      | nil =>
          have hhead : digitsValue l.whole = head := foldl_of_absorb habsorb
          rw [hhead]
          simpa using h
      | cons d dropped =>
          -- A digit that does not fit leaves a double, if anything.
          simp only [List.isEmpty_cons, Bool.false_and, Bool.false_eq_true, if_false] at h
          split at h <;> cases h

theorem eq_of_integer {negative : Bool} {m : Nat} (h : integer negative m = .int n) :
    negative = false ∧ m = n := by
  unfold integer at h
  cases negative with
  | false =>
      cases h
      exact ⟨rfl, rfl⟩
  | true =>
      simp only [Bool.not_true, Bool.false_eq_true, if_false] at h
      split at h
      · have hminus : -(m : Int) = n := Number.int.inj h
        omega
      · cases h

/-- A literal for a whole number that is not below zero spells the number. -/
theorem spells_of_value (hl : LiteralOf l t []) (h : l.value = .ok (.int n)) : Spells t n := by
  obtain ⟨hfraction, hexponent, hinteger⟩ := Literal.plain_of_value h
  obtain ⟨hnegative, hvalue⟩ := eq_of_integer hinteger
  obtain ⟨negative, whole, fraction, exponent⟩ := l
  obtain rfl : negative = false := hnegative
  obtain rfl : fraction = [] := hfraction
  obtain rfl : exponent = none := hexponent
  obtain ⟨rfl, hspells⟩ := spells_of_literalOf hl
  exact ⟨hspells.some, hspells.digits, hspells.zero, hvalue⟩

theorem value_of_spells (h : Spells t n) (hn : n < UInt64.size) :
    Literal.value ⟨false, t, [], none⟩ = .ok (.int n) := by
  have habsorb : absorb 0 t = (n, []) := by
    rw [absorb_digits (h.value.symm ▸ hn), h.value]
  simp [Literal.value, habsorb, integer]

theorem Tree.number?_num {k : Number} : (Tree.num l).number? = some k ↔ l.value = .ok k := by
  show l.value.toOption = some k ↔ l.value = .ok k
  cases l.value <;> simp [Except.toOption]

theorem Tree.natUpTo?_eq_some {v : Tree} :
    v.natUpTo? bound = some n ↔ v.number? = some (.int n) ∧ n ≤ bound := by
  unfold Tree.natUpTo?
  constructor
  · intro h
    obtain ⟨k, hk, hrange⟩ := Option.bind_eq_some_iff.mp h
    cases k with
    | double x => cases hrange
    | int i =>
        dsimp only at hrange
        split at hrange
        · next hi =>
          have hnat : i.toNat = n := Option.some.inj hrange
          obtain rfl : i = n := by omega
          exact ⟨hk, by omega⟩
        · cases hrange
  · rintro ⟨hnumber, hn⟩
    have hrange : (0 : Int) ≤ n ∧ (n : Int) ≤ bound := by omega
    simp [hnumber, hrange]

/-- What is taken for a whole number up to a bound is written with its digits. -/
theorem natUpTo?_num (hl : LiteralOf l t []) (hbound : bound < UInt64.size) :
    Tree.natUpTo? bound (.num l) = some n ↔ Spells t n ∧ n ≤ bound := by
  rw [Tree.natUpTo?_eq_some, Tree.number?_num]
  constructor
  · rintro ⟨hvalue, hn⟩
    exact ⟨spells_of_value hl hvalue, hn⟩
  · rintro ⟨hspells, hn⟩
    obtain rfl := hspells.literal_eq hl
    exact ⟨value_of_spells hspells (Nat.lt_of_le_of_lt hn hbound), hn⟩

theorem uint64?_num (hl : LiteralOf l t []) {w : UInt64} :
    Tree.uint64? (.num l) = some w ↔ ∃ n, Spells t n ∧ n ≤ UInt64.size - 1 ∧ n.toUInt64 = w := by
  rw [Tree.uint64?, Option.map_eq_some_iff]
  simp only [natUpTo?_num hl (by decide : UInt64.size - 1 < UInt64.size), and_assoc]

theorem uint8?_num (hl : LiteralOf l t []) {w : UInt8} :
    Tree.uint8? (.num l) = some w ↔ ∃ n, Spells t n ∧ n ≤ UInt8.size - 1 ∧ n.toUInt8 = w := by
  rw [Tree.uint8?, Option.map_eq_some_iff]
  simp only [natUpTo?_num hl (by decide : UInt8.size - 1 < UInt64.size), and_assoc]

/-! ### Digits that are printed -/

theorem digitValue_lt {d : UInt8} (h : isDigit d = true) :
    digitValue d < 10 ∧ ascii (digitChar (digitValue d)) = d := by
  have hall : ∀ k < 256, isDigit (UInt8.ofNat k) = true →
      digitValue (UInt8.ofNat k) < 10 ∧
        ascii (digitChar (digitValue (UInt8.ofNat k))) = UInt8.ofNat k := by
    decide +kernel
  have hd := hall d.toNat d.toNat_lt
  rw [UInt8.ofNat_toNat] at hd
  exact hd h

theorem digitsValue_append (ds : Bytes) (d : UInt8) :
    digitsValue (ds ++ [d]) = 10 * digitsValue ds + digitValue d := by
  rw [digitsValue, digitsValue, List.foldl_append, List.foldl_cons, List.foldl_nil, Nat.mul_comm]

/-- Digits without a zero in front of others are those that are printed. -/
theorem digits_digitsValue (hsome : t ≠ []) (hall : ∀ d ∈ t, isDigit d = true)
    (hzero : t.head? = some (ascii '0') → t = [ascii '0']) :
    (Decimal.digits (digitsValue t)).map ascii = t := by
  induction t using List.reverseRecOn with
  | nil => exact absurd rfl hsome
  | append_singleton ds d ih =>
      obtain ⟨hds, hd⟩ := List.forall_mem_append.mp hall
      obtain ⟨hlt, hchar⟩ := digitValue_lt (hd d (List.mem_singleton_self d))
      rw [digitsValue_append]
      cases ds with
      | nil =>
          have hvalue : 10 * digitsValue [] + digitValue d = digitValue d := Nat.zero_add _
          rw [hvalue, Decimal.digits, if_pos hlt, List.map_singleton, hchar]
          rfl
      | cons c cs =>
          have hfront : (c :: cs).head? ≠ some (ascii '0') := by
            intro hhead
            have hone := congrArg List.length (hzero hhead)
            simp at hone
          have hprinted := ih (List.cons_ne_nil c cs) hds fun hhead => absurd hhead hfront
          -- What stands in front spells no zero, or it would be printed as one.
          have hpos : digitsValue (c :: cs) ≠ 0 := by
            intro hvalue
            have hzeroDigits : Decimal.digits 0 = ['0'] := by
              simp [Decimal.digits, digitChar]
            rw [hvalue, hzeroDigits] at hprinted
            apply hfront
            rw [← hprinted]
            rfl
          rw [Decimal.digits, if_neg (by omega), List.map_append, List.map_singleton]
          have hdiv : (10 * digitsValue (c :: cs) + digitValue d) / 10 = digitsValue (c :: cs) := by
            omega
          have hmod : (10 * digitsValue (c :: cs) + digitValue d) % 10 = digitValue d := by omega
          rw [hdiv, hmod, hprinted, hchar]

theorem Spells.eq_digits (h : Spells t n) : t = (Decimal.digits n).map ascii := by
  have hdigits := digits_digitsValue h.some h.digits h.zero
  rw [h.value] at hdigits
  exact hdigits.symm

/-- The number is printed as the literal that it was written as. -/
theorem Spells.literal_int (h : Spells t n) (hl : LiteralOf l t []) :
    (Number.int n).literal = l := by
  have hprinted := Number.written_literal (n := .int n) trivial
  have hliteral := hprinted.1.literalOf []
  have hbytes : Text.encode (Number.int n).chars = t := by
    have hchars : (Number.int n).chars = Decimal.digits n := Number.chars_ofNat n
    rw [hchars, h.eq_digits, Text.encode_of_ascii fun c hc =>
      isAscii_of_mem (Decimal.mem_floatChars (Decimal.mem_digitChars_of_mem_digits hc))]
  rw [List.append_nil, ← hprinted.2, hbytes] at hliteral
  exact (hl.unique hliteral nofun nofun).1

end ReviewDesk.Json
