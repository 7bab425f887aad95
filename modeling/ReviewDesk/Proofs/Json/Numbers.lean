/-
Printed numbers are literals with their value.

For an integer this is shown from its digits.  Of a double it is a matter of the
shortest decimals and of rounding, and is assumed here: `ReadsBack x` says that the
printed text of `x`, read by itself, gives `x`.  What follows from it is that the text
does so inside a document as well, where something follows it: all that was read is a
literal (`literalOf_of_run`), and a literal is read to its end whatever ends it.
-/
import ReviewDesk.Proofs.Decimal.Text
import ReviewDesk.Proofs.Text.Utf8
import ReviewDesk.Proofs.Json.Reads

namespace ReviewDesk.Json

open Decimal

/-! ### Digits -/

theorem isDigit_of_mem {c : Char} (h : c ∈ digitChars) : Json.isDigit (ascii c) = true := by
  have all : digitChars.all (fun c => Json.isDigit (ascii c)) = true := by decide
  exact List.all_eq_true.mp all c h

theorem digitValue_of_mem {c : Char} (h : c ∈ digitChars) :
    Json.digitValue (ascii c) = Decimal.digitValue c := by
  have all : digitChars.all (fun c => Json.digitValue (ascii c) == Decimal.digitValue c) = true := by
    decide
  exact eq_of_beq (List.all_eq_true.mp all c h)

theorem isAscii_of_mem {c : Char} (h : c ∈ floatChars) : c.toNat < 0x80 := by
  have all : floatChars.all (fun c => c.toNat < 0x80) = true := by decide
  exact of_decide_eq_true (List.all_eq_true.mp all c h)

theorem not_blank_of_mem {c : Char} (h : c ∈ floatChars) : isBlank (ascii c) = false := by
  have all : floatChars.all (fun c => !isBlank (ascii c)) = true := by decide
  exact Bool.not_eq_true' _ ▸ List.all_eq_true.mp all c h

theorem digitsValue_eq {cs : List Char} (h : ∀ c ∈ cs, c ∈ digitChars) :
    digitsValue (cs.map ascii) = Decimal.value cs := by
  have hfold : ∀ n, (cs.map ascii).foldl (fun n d => n * 10 + Json.digitValue d) n
      = cs.foldl (fun n d => 10 * n + Decimal.digitValue d) n := by
    intro n
    induction cs generalizing n with
    | nil => rfl
    | cons c cs ih =>
        rw [List.map_cons, List.foldl_cons, List.foldl_cons,
          digitValue_of_mem (h c (List.mem_cons_self ..)), Nat.mul_comm,
          ih fun d hd => h d (List.mem_cons_of_mem _ hd)]
  exact hfold 0

/-- A significand only grows. -/
theorem le_foldl_digits (n : Nat) (ds : Bytes) :
    n ≤ ds.foldl (fun n d => n * 10 + Json.digitValue d) n := by
  induction ds generalizing n with
  | nil => exact Nat.le_refl n
  | cons d ds ih =>
      have hstep : n ≤ n * 10 + Json.digitValue d := by omega
      exact Nat.le_trans hstep (ih _)

/-- Digits that fit are all taken into the significand. -/
theorem absorb_eq {n : Nat} {ds : Bytes}
    (h : ds.foldl (fun n d => n * 10 + Json.digitValue d) n < UInt64.size) :
    absorb n ds = (ds.foldl (fun n d => n * 10 + Json.digitValue d) n, []) := by
  induction ds generalizing n with
  | nil => rfl
  | cons d ds ih =>
      rw [List.foldl_cons] at h ⊢
      rw [absorb, if_pos (Nat.lt_of_le_of_lt (le_foldl_digits _ ds) h)]
      exact ih h

theorem absorb_digits {ds : Bytes} (h : digitsValue ds < UInt64.size) :
    absorb 0 ds = (digitsValue ds, []) :=
  absorb_eq h

/-! ### Integers -/

/-- The literal of a whole number. -/
def wholeLiteral (n : Nat) : Literal :=
  ⟨false, (digits n).map ascii, [], none⟩

theorem literalOf_whole (n : Nat) (t : Bytes) :
    LiteralOf (wholeLiteral n) ((digits n).map ascii ++ t) t := by
  have hdigits : Digits ((digits n).map ascii) ((digits n).map ascii ++ t) t := by
    refine ⟨by simpa using digits_ne_nil n, ?_, rfl⟩
    intro d hd
    obtain ⟨c, hc, rfl⟩ := List.mem_map.mp hd
    exact isDigit_of_mem (mem_digitChars_of_mem_digits hc)
  refine .mk .plus ⟨hdigits, fun h => ?_⟩ .none .none
  rw [List.head?_map, Option.map_eq_some_iff] at h
  obtain ⟨c, hc, hzero⟩ := h
  have hc' : c = '0' := by
    have hmem := mem_digitChars_of_mem_digits (List.mem_of_mem_head? hc)
    have hc := isAscii_of_mem (mem_floatChars hmem)
    exact ascii_inj hc (by decide) hzero
  rw [digits_of_head_zero (hc' ▸ hc)]
  rfl

theorem value_wholeLiteral {n : Nat} (h : n < UInt64.size) :
    (wholeLiteral n).value = .ok (.int n) := by
  have hn : digitsValue ((digits n).map ascii) = n := by
    rw [digitsValue_eq fun c => mem_digitChars_of_mem_digits, value_digits]
  have habsorb : absorb 0 ((digits n).map ascii) = (n, []) := by
    rw [absorb_digits (hn.symm ▸ h), hn]
  simp [Literal.value, wholeLiteral, habsorb, integer]

/-! ### Doubles -/

/-- The printed text of the double is read as the double. -/
def ReadsBack (x : Float) : Prop :=
  Reader.double.run (Text.bytes (ofFloat x)) = .ok (x, [])

instance (x : Float) : Decidable (ReadsBack x) :=
  decidable_of_iff
    ((match Reader.double.run (Text.bytes (ofFloat x)) with
      | .ok (y, rest) => decide (y = x ∧ rest = [])
      | .error _ => false) = true) <| by
    rw [ReadsBack]
    cases Reader.double.run (Text.bytes (ofFloat x)) with
    | error stop => simp
    | ok p => cases p; simp

/-- With a point or an exponent the value is a double. -/
theorem Literal.double_of_value {l : Literal} {n : Number} (hn : l.value = .ok n)
    (h : ¬ (l.fraction = [] ∧ l.exponent = none)) : ∃ x, n = .double x := by
  have hplain : ∀ dropped : Bytes,
      (dropped.isEmpty && l.fraction.isEmpty && l.exponent.isNone) = false := by
    intro dropped
    rw [Bool.eq_false_iff]
    intro hall
    simp only [Bool.and_eq_true, List.isEmpty_iff, Option.isNone_iff_eq_none] at hall
    exact h ⟨hall.1.2, hall.2⟩
  simp only [Literal.value, hplain, Bool.false_eq_true, if_false] at hn
  split at hn
  · cases hn
    exact ⟨_, rfl⟩
  · cases hn

/-- The printed text of a double that reads back is a literal with its value. -/
theorem literal_of_readsBack {x : Float} (hfinite : x.isFinite = true) (h : ReadsBack x) :
    ∃ l, LiteralOf l ((ofFloat x).toList.map ascii) [] ∧ l.value = .ok (.double x) := by
  have htext := floatText_ofFloat hfinite
  have hbytes : Text.bytes (ofFloat x) = (ofFloat x).toList.map ascii := by
    rw [Text.bytes_eq_encode, Text.encode_of_ascii fun c hc => isAscii_of_mem (htext.chars c hc)]
  rw [ReadsBack, hbytes] at h
  obtain ⟨n, r, hnumber, hfloat⟩ := Reader.run_bind_eq_ok.mp h
  cases hfloat
  obtain ⟨l, hl, hn⟩ := Reader.literal_of_numberValue hnumber
  rw [dropWhile_of_not_blank] at hl
  · have hmark : ¬ (l.fraction = [] ∧ l.exponent = none) := by
      rintro ⟨hfraction, hexponent⟩
      have hplain := hl.mem_of_plain hfraction hexponent
      rcases htext.mark with hc | hc <;>
        exact absurd (hplain _ (List.mem_map_of_mem hc)) (by decide)
    obtain ⟨y, rfl⟩ := Literal.double_of_value hn hmark
    exact ⟨l, hl, hn⟩
  · intro b hb
    obtain ⟨c, hc, rfl⟩ := List.mem_map.mp (List.mem_of_mem_head? hb)
    exact not_blank_of_mem (htext.chars c hc)

/-! ### Numbers that are written exactly -/

/-- Numbers whose text has their value: integers of 64 bits, and finite doubles that
read back. -/
def Number.Exact : Number → Prop
  | .int i => ∃ n : Nat, i = n ∧ n < UInt64.size
  | .double x => x.isFinite = true ∧ ReadsBack x

theorem value_number {n : Number} (h : n.Exact) (t : Bytes) :
    Value (.num n) (Text.encode n.chars ++ t) t := by
  cases n with
  | int i =>
      obtain ⟨n, rfl, hn⟩ := h
      have hchars : (Number.int n).chars = digits n := String.toList_ofList
      rw [hchars, Text.encode_of_ascii fun c hc =>
        isAscii_of_mem (mem_floatChars (mem_digitChars_of_mem_digits hc))]
      exact .num (literalOf_whole n t) (value_wholeLiteral hn)
  | double x =>
      obtain ⟨hfinite, hback⟩ := h
      obtain ⟨l, hl, hvalue⟩ := literal_of_readsBack hfinite hback
      have hchars : (Number.double x).chars = (ofFloat x).toList := by
        rw [Number.chars, if_pos hfinite]
      rw [hchars, Text.encode_of_ascii fun c hc =>
        isAscii_of_mem ((floatText_ofFloat hfinite).chars c hc)]
      exact .num (hl.append t) hvalue

end ReviewDesk.Json
