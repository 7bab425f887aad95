/-
Every way of writing a text is read as that text.

The reader collects bytes, last first, and asks only at the closing mark whether they
are UTF-8.  The induction is therefore on what is still to be read, for any bytes
collected before it: those and the bytes the rest stands for make up the text.
-/
import ReviewDesk.Proofs.Json.Run
import ReviewDesk.Proofs.Json.Grammar

namespace ReviewDesk.Json.Reader

variable {d s t : Bytes}

/-! ### Escapes -/

theorem run_hexUnit {n : Nat} (h : Hex n s t) : hexUnit.run s = .ok (n, t) := by
  cases h with
  | mk ha hb hc hd => simp only [hexUnit, ha, hb, hc, hd]

theorem run_escapedUnit {n : Nat} (h : Hex n s t) (htrailing : isTrailing n = false)
    (hleading : isLeading n = false) : escapedUnit.run s = .ok (Char.ofNat n, t) := by
  rw [escapedUnit, run_bind_ok (run_hexUnit h)]
  simp only [htrailing, hleading, Bool.false_eq_true, if_false, run_pure]

/-- A leading half is no trailing one. -/
theorem isTrailing_of_isLeading {n : Nat} (h : isLeading n = true) : isTrailing n = false := by
  simp [isLeading, isTrailing] at h ⊢
  omega

theorem run_escapedUnit_halves {n m : Nat} {s' : Bytes}
    (hn : Hex n s (ascii '\\' :: ascii 'u' :: s')) (hm : Hex m s' t)
    (hleading : isLeading n = true) (htrailing : isTrailing m = true) :
    escapedUnit.run s = .ok (joinHalves n m, t) := by
  rw [escapedUnit, run_bind_ok (run_hexUnit hn)]
  simp only [isTrailing_of_isLeading hleading, hleading, Bool.false_eq_true, if_false, if_true,
    run_next_bind, bne_self_eq_false]
  rw [run_bind_ok (run_hexUnit hm)]
  simp only [htrailing, if_true, run_pure]

theorem run_escape_unit {c : Char} (h : escapedUnit.run s = .ok (c, t)) :
    escape.run (ascii 'u' :: s) = .ok (String.utf8EncodeChar c, t) := by
  simp only [escape, run_next_bind, beq_self_eq_true, if_true]
  rw [run_bind_ok h, run_pure]

theorem run_escape_short {b c : UInt8} (h : shortEscape? b = some c) :
    escape.run (b :: s) = .ok ([c], s) := by
  have hu : b ≠ ascii 'u' := by
    rintro rfl
    cases h
  simp only [escape, run_next_bind, beq_eq_false_iff_ne.mpr hu, Bool.false_eq_true, if_false, h, run_pure]

/-! ### One byte or escape -/

variable {collected : Bytes}

theorem run_textStep_close {x : String} (h : Text.ofBytes? collected.reverse = some x) :
    (textStep collected).run (ascii '"' :: t) = .ok (.inr x, t) := by
  have hc : closeText collected = .ok x := by simp only [closeText, h]
  simp only [textStep, run_next_bind, beq_self_eq_true, if_true, hc, run_ofExcept_ok_bind, run_pure]

theorem run_textStep_plain {b : UInt8} (hquote : b ≠ ascii '"') (hslash : b ≠ ascii '\\')
    (hcontrol : ¬ b < 0x20) :
    (textStep collected).run (b :: s) = .ok (.inl (b :: collected), s) := by
  simp only [textStep, run_next_bind, beq_eq_false_iff_ne.mpr hquote,
    beq_eq_false_iff_ne.mpr hslash, if_neg hcontrol, Bool.false_eq_true, if_false, run_pure]

theorem run_textStep_escape {bs : Bytes} (h : escape.run s = .ok (bs, t)) :
    (textStep collected).run (ascii '\\' :: s) = .ok (.inl (bs.reverse ++ collected), t) := by
  have hquote : (ascii '\\' == ascii '"') = false := by decide
  simp only [textStep, run_next_bind, hquote, beq_self_eq_true, Bool.false_eq_true, if_false,
    if_true]
  rw [run_bind_ok h, run_pure]

/-! ### Texts -/

theorem run_collect {x : String} {strict : ∀ c, (textStep c).Strict} (h : Content d s t)
    (hx : Text.ofBytes? (collected.reverse ++ d) = some x) :
    (iterate textStep strict collected).run s = .ok (x, t) := by
  induction h generalizing collected with
  | close =>
      rw [List.append_nil] at hx
      exact run_iterate_inr (run_textStep_close hx)
  | plain hquote hslash hcontrol _ ih =>
      rw [run_iterate_inl (run_textStep_plain hquote hslash hcontrol)]
      exact ih (by simpa using hx)
  | short hb _ ih =>
      rw [run_iterate_inl (run_textStep_escape (run_escape_short hb))]
      exact ih (by simpa using hx)
  | unit hn htrailing hleading _ ih =>
      have hesc := run_escape_unit (run_escapedUnit hn htrailing hleading)
      rw [run_iterate_inl (run_textStep_escape hesc)]
      exact ih (by simpa using hx)
  | halves hn hm hleading htrailing _ ih =>
      have hesc := run_escape_unit (run_escapedUnit_halves hn hm hleading htrailing)
      rw [run_iterate_inl (run_textStep_escape hesc)]
      exact ih (by simpa using hx)

theorem run_text {x : String} (h : TextOf x s t) : text.run s = .ok (x, t) :=
  run_collect h (Text.ofBytes?_bytes x)

end ReviewDesk.Json.Reader
