/-
What is printed for a number is a literal, and tells the number.

`Literal.written` writes a literal in the one way that is used for printing: a small letter
before an exponent, and always a sign after it.  Whatever is printed is a literal written so,
for integers as well as for doubles of any size, and nothing is assumed about how the
literal would be read.  Two numbers with one literal therefore have one text.

Integers with one text are equal.  That doubles with one text are equal is a matter of the
shortest decimals, and is left to those who need it.
-/
import ReviewDesk.Proofs.Decimal.Shortest
import ReviewDesk.Proofs.Json.Numbers

namespace ReviewDesk.Json

open Decimal

/-! ### Literals written out -/

namespace Literal

/-- A literal has digits where a number has to have them. -/
structure Proper (l : Literal) : Prop where
  whole : l.whole ≠ []
  digits : ∀ d ∈ l.whole, isDigit d = true
  zero : l.whole.head? = some (ascii '0') → l.whole = [ascii '0']
  fraction : ∀ d ∈ l.fraction, isDigit d = true
  exponent : ∀ e ∈ l.exponent, e.digits ≠ [] ∧ ∀ d ∈ e.digits, isDigit d = true

def signBytes (negative : Bool) : Bytes :=
  if negative then [ascii '-'] else []

def fractionBytes (ds : Bytes) : Bytes :=
  if ds.isEmpty then [] else ascii '.' :: ds

def exponentBytes : Option Exponent → Bytes
  | none => []
  | some e => ascii 'e' :: (if e.negative then ascii '-' else ascii '+') :: e.digits

/-- The text of a literal, with a small letter before its exponent and a sign behind it. -/
def written (l : Literal) : Bytes :=
  signBytes l.negative ++ (l.whole ++ (fractionBytes l.fraction ++ exponentBytes l.exponent))

theorem sign_written (negative : Bool) (t : Bytes) :
    Sign negative (signBytes negative ++ t) t := by
  cases negative with
  | false => exact .plus
  | true => exact .minus

theorem fraction_written {ds : Bytes} (h : ∀ d ∈ ds, isDigit d = true) (t : Bytes) :
    Fraction ds (fractionBytes ds ++ t) t := by
  cases ds with
  | nil => exact .none
  | cons d ds => exact .point ⟨List.cons_ne_nil _ _, h, rfl⟩

theorem exponentOf_written {o : Option Exponent}
    (h : ∀ e ∈ o, e.digits ≠ [] ∧ ∀ d ∈ e.digits, isDigit d = true) (t : Bytes) :
    ExponentOf o (exponentBytes o ++ t) t := by
  cases o with
  | none => exact .none
  | some e =>
      obtain ⟨hsome, hall⟩ := h e rfl
      obtain ⟨negative, digits⟩ := e
      have hdigits : Digits digits (digits ++ t) t := ⟨hsome, hall, rfl⟩
      cases negative with
      | false => exact .some (.inl rfl) .plus hdigits
      | true => exact .some (.inl rfl) .minus hdigits

theorem Proper.literalOf {l : Literal} (h : l.Proper) (t : Bytes) :
    LiteralOf l (l.written ++ t) t := by
  simp only [written, List.append_assoc]
  exact .mk (sign_written _ _) ⟨⟨h.whole, h.digits, rfl⟩, h.zero⟩ (fraction_written h.fraction _)
    (exponentOf_written h.exponent t)

theorem written_negative {l : Literal} (h : l.negative = false) :
    ({ l with negative := true } : Literal).written = ascii '-' :: l.written := by
  simp [written, signBytes, h]

end Literal

/-! ### Printed texts -/

/-- The text of a literal without a sign. -/
def IsUnsigned (cs : List Char) : Prop :=
  ∃ l : Literal, l.negative = false ∧ l.Proper ∧ l.written = cs.map ascii

/-- The text of a literal. -/
def IsLiteral (cs : List Char) : Prop :=
  ∃ l : Literal, l.Proper ∧ l.written = cs.map ascii

theorem IsUnsigned.isLiteral {cs : List Char} (h : IsUnsigned cs) : IsLiteral cs := by
  obtain ⟨l, -, hl, hwritten⟩ := h
  exact ⟨l, hl, hwritten⟩

theorem IsUnsigned.negative {cs : List Char} (h : IsUnsigned cs) : IsLiteral ('-' :: cs) := by
  obtain ⟨l, hsign, hl, hwritten⟩ := h
  refine ⟨{ l with negative := true }, ⟨hl.whole, hl.digits, hl.zero, hl.fraction, hl.exponent⟩, ?_⟩
  rw [Literal.written_negative hsign, hwritten, List.map_cons]

theorem isDigit_of_mem_map {cs : List Char} (h : ∀ c ∈ cs, c ∈ digitChars) :
    ∀ d ∈ cs.map ascii, isDigit d = true := by
  intro d hd
  obtain ⟨c, hc, rfl⟩ := List.mem_map.mp hd
  exact isDigit_of_mem (h c hc)

/-- Digits that may stand before a point. -/
structure WholeDigits (ds : List Char) : Prop where
  digits : ∀ c ∈ ds, c ∈ digitChars
  some : ds ≠ []
  zero : ds.head? = Option.some '0' → ds = ['0']

theorem wholeDigits_digits (n : Nat) : WholeDigits (digits n) :=
  ⟨fun _ => mem_digitChars_of_mem_digits, digits_ne_nil n, digits_of_head_zero⟩

theorem wholeDigits_zero : WholeDigits ['0'] :=
  ⟨forall_of_all (by decide), by decide, fun _ => rfl⟩

theorem wholeDigits_of_leading {ds : List Char} (h : Leading ds) : WholeDigits ds :=
  ⟨h.digits, h.some, fun hzero => absurd hzero h.zero⟩

def fractionChars (ds : List Char) : List Char :=
  if ds.isEmpty then [] else '.' :: ds

def exponentChars : Option (Bool × List Char) → List Char
  | none => []
  | some (negative, ds) => 'e' :: (if negative then '-' else '+') :: ds

theorem isUnsigned_of_wholeDigits (whole fraction : List Char) (o : Option (Bool × List Char))
    (hwhole : WholeDigits whole) (hfraction : ∀ c ∈ fraction, c ∈ digitChars)
    (ho : ∀ e ∈ o, e.2 ≠ [] ∧ ∀ c ∈ e.2, c ∈ digitChars) :
    IsUnsigned (whole ++ (fractionChars fraction ++ exponentChars o)) := by
  refine ⟨⟨false, whole.map ascii, fraction.map ascii, o.map fun e => ⟨e.1, e.2.map ascii⟩⟩, rfl,
    ?_, ?_⟩
  · refine ⟨by simpa using hwhole.some, isDigit_of_mem_map hwhole.digits, ?_,
      isDigit_of_mem_map hfraction, ?_⟩
    · intro hzero
      rw [List.head?_map, Option.map_eq_some_iff] at hzero
      obtain ⟨c, hc, heq⟩ := hzero
      have hascii := isAscii_of_mem (mem_floatChars (hwhole.digits c (List.mem_of_mem_head? hc)))
      obtain rfl : c = '0' := ascii_inj hascii (by decide) heq
      exact congrArg (List.map ascii) (hwhole.zero hc)
    · intro e he
      obtain ⟨e', he', rfl⟩ := Option.map_eq_some_iff.mp he
      obtain ⟨hsome, hall⟩ := ho e' he'
      exact ⟨by simpa using hsome, isDigit_of_mem_map hall⟩
  · have hfractionBytes : Literal.fractionBytes (fraction.map ascii)
        = (fractionChars fraction).map ascii := by
      cases fraction <;> rfl
    have hexponentBytes : Literal.exponentBytes (o.map fun e => ⟨e.1, e.2.map ascii⟩)
        = (exponentChars o).map ascii := by
      rcases o with _ | ⟨negative, ds⟩
      · rfl
      · cases negative <;> rfl
    simp only [Literal.written, hfractionBytes, hexponentBytes, List.map_append]
    rfl

theorem isUnsigned_digits (n : Nat) : IsUnsigned (digits n) := by
  have h := isUnsigned_of_wholeDigits _ [] none (wholeDigits_digits n) nofun nofun
  simpa [fractionChars, exponentChars] using h

section

variable {ds : List Char} (hds : Leading ds) (e : Int)
include hds

theorem isUnsigned_positional : IsUnsigned (positional ds e) := by
  have hzeros : ∀ n, ∀ c ∈ List.replicate n '0', c ∈ digitChars := by
    intro n c hc
    rw [List.eq_of_mem_replicate hc]
    decide
  have happend : ∀ {cs cs' : List Char}, (∀ c ∈ cs, c ∈ digitChars) → (∀ c ∈ cs', c ∈ digitChars) →
      ∀ c ∈ cs ++ cs', c ∈ digitChars := by
    intro cs cs' hcs hcs' c hc
    exact (List.mem_append.mp hc).elim (hcs c) (hcs' c)
  unfold positional
  dsimp only
  split
  · have h := isUnsigned_of_wholeDigits _ _ none wholeDigits_zero
      (happend (hzeros ((-e).toNat - 1)) hds.digits) nofun
    simpa [fractionChars, exponentChars, hds.some] using h
  · split
    · have hwhole : Leading (ds ++ List.replicate (e.toNat + 1 - ds.length) '0') := by
        refine ⟨happend hds.digits (hzeros _), by simp [hds.some], ?_⟩
        rw [List.head?_append, List.head?_eq_some_head hds.some, Option.some_or,
          ← List.head?_eq_some_head hds.some]
        exact hds.zero
      have h := isUnsigned_of_wholeDigits _ ['0'] none (wholeDigits_of_leading hwhole)
        (forall_of_all (by decide)) nofun
      simpa [fractionChars, exponentChars] using h
    · next hlength =>
      have hwhole : Leading (ds.take (e.toNat + 1)) := by
        refine ⟨fun c hc => hds.digits c (List.mem_of_mem_take hc), by simp [hds.some], ?_⟩
        rw [List.head?_take, if_neg (Nat.succ_ne_zero _)]
        exact hds.zero
      have hfraction : ∀ c ∈ ds.drop (e.toNat + 1), c ∈ digitChars :=
        fun c hc => hds.digits c (List.mem_of_mem_drop hc)
      have h := isUnsigned_of_wholeDigits _ _ none (wholeDigits_of_leading hwhole) hfraction nofun
      simpa [fractionChars, exponentChars, hlength] using h

theorem isUnsigned_scientific : IsUnsigned (scientific ds e) := by
  obtain ⟨d, rest, rfl⟩ := List.exists_cons_of_ne_nil hds.some
  have hwhole : Leading [d] :=
    ⟨List.forall_mem_singleton.mpr (hds.digits d (List.mem_cons_self ..)), by simp, hds.zero⟩
  have hrest : ∀ c ∈ rest, c ∈ digitChars := fun c hc => hds.digits c (List.mem_cons_of_mem _ hc)
  have h := isUnsigned_of_wholeDigits _ _ (some (decide (e < 0), digits e.natAbs))
    (wholeDigits_of_leading hwhole) hrest (by
      rintro x ⟨⟩
      exact ⟨digits_ne_nil _, fun _ => mem_digitChars_of_mem_digits⟩)
  cases rest <;> simpa [scientific, fractionChars, exponentChars] using h

end

theorem isLiteral_ofFloat {x : Float} (h : x.isFinite = true) : IsLiteral (ofFloat x).toList := by
  obtain ⟨hnan, hinf⟩ := not_nan_of_isFinite h
  have hmagnitude : IsUnsigned (if x.toBits &&& 0x7FFFFFFFFFFFFFFF = 0 then ['0', '.', '0']
      else ofPositive (Binary.ofBits (x.toBits &&& 0x7FFFFFFFFFFFFFFF))) := by
    split
    · exact ⟨⟨false, [ascii '0'], [ascii '0'], none⟩, rfl,
        ⟨by decide, List.all_eq_true.mp (by decide), by decide, List.all_eq_true.mp (by decide), nofun⟩,
        by decide⟩
    · next hbits =>
      have hsign : (x.toBits &&& 0x7FFFFFFFFFFFFFFF).toNat < fractions * 0x800 := by
        rw [UInt64.toNat_and]
        exact Nat.lt_of_le_of_lt Nat.and_le_right (by decide)
      have hds := leading_ofPositive (Binary.ofBits_pos hbits hsign)
      unfold ofPositive
      dsimp only
      split
      · exact isUnsigned_positional hds _
      · exact isUnsigned_scientific hds _
  unfold ofFloat
  simp only [hnan, hinf, Bool.false_eq_true, if_false, String.toList_ofList]
  split
  · exact hmagnitude.isLiteral
  · exact hmagnitude.negative

/-! ### Numbers and their literals -/

namespace Number

/-- Whether a number is printed as a number: only doubles that are none are not. -/
def IsPrinted : Number → Prop
  | .int _ => True
  | .double x => x.isFinite = true

/-- The literal that a number is printed as. -/
def literal (n : Number) : Literal :=
  match (Reader.literal .expectedValue).run (Text.encode n.chars) with
  | .ok (l, _) => l
  | .error _ => ⟨false, [], [], none⟩

variable {n n' : Number}

theorem chars_ofNat (m : Nat) : (Number.int (.ofNat m)).chars = digits m :=
  String.toList_ofList

theorem chars_negSucc (m : Nat) : (Number.int (.negSucc m)).chars = '-' :: digits (m + 1) := by
  simp [chars, ofInt, Decimal.ofNat]

theorem chars_double {x : Float} (h : x.isFinite = true) :
    (Number.double x).chars = (ofFloat x).toList := by
  rw [chars, if_pos h]

theorem isLiteral_chars (h : n.IsPrinted) : IsLiteral n.chars := by
  cases n with
  | int i =>
      cases i with
      | ofNat m => exact chars_ofNat m ▸ (isUnsigned_digits m).isLiteral
      | negSucc m => exact chars_negSucc m ▸ (isUnsigned_digits (m + 1)).negative
  | double x => exact chars_double h ▸ isLiteral_ofFloat h

theorem mem_floatChars_of_chars (h : n.IsPrinted) : ∀ c ∈ n.chars, c ∈ floatChars := by
  have hdigits : ∀ m, ∀ c ∈ digits m, c ∈ floatChars :=
    fun _ _ hc => mem_floatChars (mem_digitChars_of_mem_digits hc)
  cases n with
  | int i =>
      cases i with
      | ofNat m => exact chars_ofNat m ▸ hdigits m
      | negSucc m =>
          rw [chars_negSucc]
          exact List.forall_mem_cons.mpr ⟨by decide, hdigits (m + 1)⟩
  | double x => exact chars_double h ▸ (floatText_ofFloat h).chars

/-- A printed number is what its literal is written as. -/
theorem written_literal (h : n.IsPrinted) :
    n.literal.Proper ∧ Text.encode n.chars = n.literal.written := by
  obtain ⟨l, hl, hwritten⟩ := isLiteral_chars h
  have hbytes : Text.encode n.chars = l.written := by
    rw [hwritten, Text.encode_of_ascii fun c hc => isAscii_of_mem (mem_floatChars_of_chars h c hc)]
  have hrun : (Reader.literal .expectedValue).run (Text.encode n.chars) = .ok (l, []) := by
    have hliteral := hl.literalOf []
    rw [List.append_nil, ← hbytes] at hliteral
    exact Reader.run_literal hliteral nofun
  have hliteral : n.literal = l := by
    simp only [literal, hrun]
  rw [hliteral]
  exact ⟨hl, hbytes⟩

/-- The literal tells the text. -/
theorem chars_of_literal (h : n.IsPrinted) (h' : n'.IsPrinted) (heq : n.literal = n'.literal) :
    n.chars = n'.chars := by
  refine Text.encode_inj ?_
  rw [(written_literal h).2, (written_literal h').2, heq]

/-- Two numbers that do not differ in their texts alone. -/
def PrintedApart : Number → Number → Prop
  | .double x, .double y => ofFloat x = ofFloat y → x = y
  | _, _ => True

theorem digits_inj {m m' : Nat} (h : digits m = digits m') : m = m' := by
  have hvalue := congrArg value h
  rwa [value_digits, value_digits] at hvalue

theorem minus_not_mem_digits (m : Nat) : '-' ∉ digits m := by
  intro h
  exact absurd (mem_digitChars_of_mem_digits h) (by decide)

/-- A double does not look like an integer. -/
theorem chars_int_ne_double {i : Int} {x : Float} (hx : x.isFinite = true) :
    (Number.int i).chars ≠ (Number.double x).chars := by
  have hplain : ∀ m, '.' ∉ digits m ∧ 'e' ∉ digits m := fun m =>
    ⟨fun h => absurd (mem_digitChars_of_mem_digits h) (by decide),
      fun h => absurd (mem_digitChars_of_mem_digits h) (by decide)⟩
  have hmark : ¬ ('.' ∈ (Number.int i).chars ∨ 'e' ∈ (Number.int i).chars) := by
    cases i with
    | ofNat m =>
        rw [chars_ofNat]
        simp [hplain]
    | negSucc m =>
        rw [chars_negSucc]
        simp [hplain]
  intro heq
  rw [heq, chars_double hx] at hmark
  exact hmark (floatText_ofFloat hx).mark

theorem eq_of_literal (h : n.IsPrinted) (h' : n'.IsPrinted) (happart : n.PrintedApart n')
    (heq : n.literal = n'.literal) : n = n' := by
  have hchars := chars_of_literal h h' heq
  cases n with
  | int i =>
      cases n' with
      | int i' =>
          cases i with
          | ofNat m =>
              cases i' with
              | ofNat m' =>
                  rw [chars_ofNat, chars_ofNat] at hchars
                  rw [digits_inj hchars]
              | negSucc m' =>
                  rw [chars_ofNat, chars_negSucc] at hchars
                  exact absurd (hchars ▸ List.mem_cons_self ..) (minus_not_mem_digits m)
          | negSucc m =>
              cases i' with
              | ofNat m' =>
                  rw [chars_ofNat, chars_negSucc] at hchars
                  exact absurd (hchars ▸ List.mem_cons_self ..) (minus_not_mem_digits m')
              | negSucc m' =>
                  rw [chars_negSucc, chars_negSucc, List.cons.injEq] at hchars
                  rw [Nat.succ.inj (digits_inj hchars.2)]
      | double x' => exact absurd hchars (chars_int_ne_double h')
  | double x =>
      cases n' with
      | int i' => exact absurd hchars.symm (chars_int_ne_double h)
      | double x' =>
          rw [chars_double h, chars_double h', String.toList_inj] at hchars
          rw [happart hchars]

end Number

end ReviewDesk.Json
