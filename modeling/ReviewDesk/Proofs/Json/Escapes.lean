/-
What is written for a text is a way of writing it.

The writer goes character by character and the grammar byte by byte.  The two meet in
what one character is written as: an escape that stands for its UTF-8, or its UTF-8
itself, and then none of its bytes is one that would have had to be escaped.
-/
import Mathlib.Tactic.SplitIfs
import ReviewDesk.Proofs.Text.Utf8
import ReviewDesk.Proofs.Json.Grammar

namespace ReviewDesk.Json

open Text Reader

variable {d s t : Bytes}

/-! ### Characters written as they are -/

/-- Bytes that may stand in a text as they are. -/
def Plain (b : UInt8) : Prop :=
  b ≠ ascii '"' ∧ b ≠ ascii '\\' ∧ ¬ b < 0x20

instance (b : UInt8) : Decidable (Plain b) :=
  inferInstanceAs (Decidable (_ ∧ _ ∧ _))

theorem Content.plain_append {bs : Bytes} (h : Content d s t) (hbs : ∀ b ∈ bs, Plain b) :
    Content (bs ++ d) (bs ++ s) t := by
  induction bs with
  | nil => exact h
  | cons b bs ih =>
      obtain ⟨hquote, hslash, hcontrol⟩ := hbs b (List.mem_cons_self ..)
      exact .plain hquote hslash hcontrol (ih fun c hc => hbs c (List.mem_cons_of_mem _ hc))

theorem plain_of_high {b : UInt8} (h : 0x80 ≤ b.toNat) : Plain b := by
  refine ⟨?_, ?_, ?_⟩
  · rintro rfl
    revert h
    decide
  · rintro rfl
    revert h
    decide
  · intro hlt
    have hlt' : b.toNat < 0x20 := UInt8.lt_iff_toNat_lt.mp hlt
    omega

theorem plain_utf8 {c : Char} (hquote : c ≠ '"') (hslash : c ≠ '\\') (h : ¬ c.toNat < 0x20) :
    ∀ b ∈ String.utf8EncodeChar c, Plain b := by
  intro b hb
  by_cases hc : c.toNat < 0x80
  · rw [utf8_ascii hc, List.mem_singleton] at hb
    subst hb
    refine ⟨fun heq => hquote (ascii_inj hc (by decide) heq),
      fun heq => hslash (ascii_inj hc (by decide) heq), fun hlt => h ?_⟩
    have hnat := UInt8.lt_iff_toNat_lt.mp hlt
    rwa [toNat_ascii hc] at hnat
  · exact plain_of_high (high_of_mem_utf8 (Nat.le_of_not_lt hc) hb)

/-! ### Control characters -/

theorem hexDigit?_digitChar {n : Nat} (h : n < 16) :
    hexDigit? (ascii (Nat.digitChar n)) = some n := by
  have all : ∀ m ∈ List.range 16, hexDigit? (ascii (Nat.digitChar m)) = some m := by decide
  exact all n (List.mem_range.mpr h)

theorem encode_escapedHex {n : Nat} (h : n < 0x20) :
    encode (escapedHex n)
      = ['0', '0', Nat.digitChar (n / 16), Nat.digitChar (n % 16)].map ascii := by
  have all : ∀ m ∈ List.range 0x20, encode (escapedHex m)
      = ['0', '0', Nat.digitChar (m / 16), Nat.digitChar (m % 16)].map ascii := by decide
  exact all n (List.mem_range.mpr h)

theorem hex_escapedHex {n : Nat} (h : n < 0x20) (s : Bytes) :
    Hex n (encode (escapedHex n) ++ s) s := by
  have hzero := hexDigit?_digitChar (n := 0) (by decide)
  have hhigh := hexDigit?_digitChar (n := n / 16) (by omega)
  have hlow := hexDigit?_digitChar (n := n % 16) (by omega)
  have hn : ((0 * 16 + 0) * 16 + n / 16) * 16 + n % 16 = n := by omega
  have hhex := Hex.mk (t := s) hzero hzero hhigh hlow
  rw [hn] at hhex
  rw [encode_escapedHex h]
  exact hhex

/-- The escape of a control character. -/
theorem Content.control {c : Char} (h : Content d s t) (hc : c.toNat < 0x20) :
    Content (String.utf8EncodeChar c ++ d)
      (encode (['\\', 'u'] ++ escapedHex c.toNat) ++ s) t := by
  have htrailing : isTrailing c.toNat = false := by
    simp [isTrailing]
    omega
  have hleading : isLeading c.toNat = false := by
    simp [isLeading]
    omega
  have hunit := Content.unit (hex_escapedHex hc s) htrailing hleading h
  rw [Char.ofNat_toNat] at hunit
  rw [encode_append, List.append_assoc]
  exact hunit

/-! ### Texts -/

theorem Content.shortChar {c : Char} (h : Content d s t) (q e : Char) (hc : c = q)
    (hq : q.toNat < 0x80) (he : e.toNat < 0x80)
    (hqe : shortEscape? (ascii e) = some (ascii q)) :
    Content (String.utf8EncodeChar c ++ d) (encode ['\\', e] ++ s) t := by
  rw [hc, utf8_ascii hq, encode_ascii_cons _ (by decide), encode_ascii_cons _ he]
  exact .short hqe h

/-- What one character is written as stands for its UTF-8. -/
theorem Content.escapedChar {c : Char} (h : Content d s t) :
    Content (String.utf8EncodeChar c ++ d) (encode (escapedChar c) ++ s) t := by
  unfold Json.escapedChar
  split_ifs with hquote hslash hback hfeed hline hreturn htab hcontrol
  · exact h.shortChar '"' '"' hquote (by decide) (by decide) (by decide)
  · exact h.shortChar '\\' '\\' hslash (by decide) (by decide) (by decide)
  · exact h.shortChar '\x08' 'b' hback (by decide) (by decide) (by decide)
  · exact h.shortChar '\x0c' 'f' hfeed (by decide) (by decide) (by decide)
  · exact h.shortChar '\n' 'n' hline (by decide) (by decide) (by decide)
  · exact h.shortChar '\r' 'r' hreturn (by decide) (by decide) (by decide)
  · exact h.shortChar '\t' 't' htab (by decide) (by decide) (by decide)
  · exact h.control hcontrol
  · have hbytes : encode [c] = String.utf8EncodeChar c := by simp [encode]
    rw [hbytes]
    exact h.plain_append (plain_utf8 hquote hslash hcontrol)

theorem Content.escaped (cs : List Char) (h : Content d s t) :
    Content (encode cs ++ d) (encode (cs.flatMap Json.escapedChar) ++ s) t := by
  induction cs with
  | nil => exact h
  | cons c cs ih =>
      rw [encode_cons, List.flatMap_cons, encode_append, List.append_assoc, List.append_assoc]
      exact ih.escapedChar

/-- What is written for a text, after its opening quotation mark, is the text. -/
theorem textOf_escaped (x : String) (t : Bytes) :
    TextOf x (encode (x.toList.flatMap escapedChar) ++ ascii '"' :: t) t := by
  have h := Content.escaped x.toList (Content.close (t := t))
  rwa [List.append_nil, ← bytes_eq_encode] at h

theorem encode_textChars (x : String) (t : Bytes) :
    encode (textChars x) ++ t
      = ascii '"' :: (encode (x.toList.flatMap escapedChar) ++ ascii '"' :: t) := by
  have hquote : encode ['"'] = [ascii '"'] :=
    encode_of_ascii (List.forall_mem_singleton.mpr (by decide))
  rw [textChars, List.cons_append, encode_ascii_cons _ (by decide), encode_append, hquote,
    List.cons_append, List.append_assoc, List.singleton_append]

end ReviewDesk.Json
