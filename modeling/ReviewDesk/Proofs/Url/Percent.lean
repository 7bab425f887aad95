/-
Percent encoding undone, and done twice.

Of the characters that encoding writes itself, the percent sign and the hexadecimal
digits, it never has to encode any, unless the percent sign is in the set.  So either
encoding a second time changes nothing, which is how the parts of a URL are read back, or
decoding gives back whatever was encoded, which is what makes a piece of a path safe.
-/
import ReviewDesk.Url.Percent
import ReviewDesk.Proofs.Text.Utf8

namespace ReviewDesk.Url

open Text

variable {set : EncodeSet} {s : List Char}

theorem ne_of_set {c d : Char} (hc : set c = false) (hd : set d = true) : c ≠ d := by
  rintro rfl
  rw [hc] at hd
  contradiction

/-! ### Hexadecimal digits -/

theorem hexValue?_hexDigit {n : Nat} (h : n < 16) : hexValue? (hexDigit n) = some n := by
  have all : ∀ m < 16, hexValue? (hexDigit m) = some m := by decide
  exact all n h

/-- The characters that encoding writes. -/
def marks : List Char :=
  '%' :: (List.range 16).map hexDigit

theorem hexDigit_mem_marks {n : Nat} (h : n < 16) : hexDigit n ∈ marks :=
  List.mem_cons_of_mem _ (List.mem_map_of_mem (List.mem_range.mpr h))

theorem mem_marks_of_mem_encodeByte {b : UInt8} {c : Char} (h : c ∈ encodeByte b) : c ∈ marks := by
  have hb : b.toNat < 256 := b.toNat_lt
  simp only [encodeByte, List.mem_cons, List.not_mem_nil, or_false] at h
  rcases h with rfl | rfl | rfl
  · exact List.mem_cons_self ..
  · exact hexDigit_mem_marks (by omega)
  · exact hexDigit_mem_marks (by omega)

/-! ### What is written -/

theorem percentEncode_cons (set : EncodeSet) (c : Char) (s : List Char) :
    percentEncode set (c :: s) = encodeChar set c ++ percentEncode set s :=
  List.flatMap_cons

theorem mem_percentEncode {c : Char} (h : c ∈ percentEncode set s) :
    c ∈ marks ∨ c ∈ s ∧ set c = false := by
  obtain ⟨d, hd, hc⟩ := List.mem_flatMap.mp h
  unfold encodeChar at hc
  split at hc
  · obtain ⟨b, -, hb⟩ := List.mem_flatMap.mp hc
    exact .inl (mem_marks_of_mem_encodeByte hb)
  · next hset =>
      rw [List.mem_singleton] at hc
      subst hc
      exact .inr ⟨hd, Bool.eq_false_iff.mpr hset⟩

/-- The text has no character of the set. -/
def Clear (set : EncodeSet) (s : List Char) : Prop :=
  ∀ c ∈ s, set c = false

instance (set : EncodeSet) (s : List Char) : Decidable (Clear set s) :=
  decidable_of_iff ((s.all fun c => !set c) = true) (by simp [Clear])

theorem percentEncode_of_clear (h : Clear set s) : percentEncode set s = s := by
  induction s with
  | nil => rfl
  | cons c cs ih =>
      have hc : encodeChar set c = [c] := by
        rw [encodeChar, h c (List.mem_cons_self ..), if_neg Bool.false_ne_true]
      rw [percentEncode_cons, hc, ih fun d hd => h d (List.mem_cons_of_mem _ hd)]
      rfl

/-- Nothing that is encoded is left, if what is written is not in the set itself. -/
theorem clear_percentEncode (hmarks : Clear set marks) (s : List Char) :
    Clear set (percentEncode set s) := by
  intro c hc
  rcases mem_percentEncode hc with h | h
  · exact hmarks c h
  · exact h.2

theorem percentEncode_ne_nil (h : s ≠ []) : percentEncode set s ≠ [] := by
  cases s with
  | nil => exact absurd rfl h
  | cons c cs =>
      rw [percentEncode_cons, encodeChar]
      split
      · have hbytes : String.utf8EncodeChar c ≠ [] := by
          rw [ne_eq, ← List.length_eq_zero_iff, String.length_utf8EncodeChar]
          exact Nat.pos_iff_ne_zero.mp c.utf8Size_pos
        obtain ⟨b, bs, hbs⟩ := List.exists_cons_of_ne_nil hbytes
        simp [hbs, encodeByte]
      · simp

/-! ### Decoding -/

theorem percentDecode_cons {c : Char} (h : c ≠ '%') (s : List Char) :
    percentDecode (c :: s) = String.utf8EncodeChar c ++ percentDecode s := by
  rw [percentDecode]
  intro _ _ _ heq
  exact absurd heq h

theorem percentDecode_of_not_mem (h : '%' ∉ s) : percentDecode s = encode s := by
  induction s with
  | nil => rfl
  | cons c cs ih =>
      rw [List.mem_cons, not_or] at h
      rw [percentDecode_cons (Ne.symm h.1), ih h.2, encode_cons]

theorem percentDecode_encodeByte (b : UInt8) (s : List Char) :
    percentDecode (encodeByte b ++ s) = b :: percentDecode s := by
  have hb : b.toNat < 256 := b.toNat_lt
  have hvalue : 16 * (b.toNat / 16) + b.toNat % 16 = b.toNat := by omega
  have hhigh := hexValue?_hexDigit (show b.toNat / 16 < 16 by omega)
  have hlow := hexValue?_hexDigit (show b.toNat % 16 < 16 by omega)
  simp only [encodeByte, List.cons_append, List.nil_append, percentDecode, hhigh, hlow, hvalue,
    UInt8.ofNat_toNat]

theorem percentDecode_encodeBytes (bs : Bytes) (s : List Char) :
    percentDecode (bs.flatMap encodeByte ++ s) = bs ++ percentDecode s := by
  induction bs with
  | nil => rfl
  | cons b bs ih =>
      rw [List.flatMap_cons, List.append_assoc, percentDecode_encodeByte, ih, List.cons_append]

/-- A text is got back from what it is encoded as, if percent signs are encoded too. -/
theorem percentDecode_percentEncode (h : set '%' = true) (s : List Char) :
    percentDecode (percentEncode set s) = encode s := by
  induction s with
  | nil => rfl
  | cons c cs ih =>
      rw [percentEncode_cons, encode_cons, encodeChar]
      split
      · rw [percentDecode_encodeBytes, ih]
      · next hset =>
          have hc : c ≠ '%' := by
            rintro rfl
            exact hset h
          rw [List.singleton_append, percentDecode_cons hc, ih]

end ReviewDesk.Url
