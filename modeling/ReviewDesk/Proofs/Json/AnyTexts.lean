/-
Texts of any kind are read to their closing mark.

Two readers go over a text.  One collects what it stands for and refuses it if that is
not UTF-8 or there is half a character in it; the other only looks for the closing mark
and takes every text.  Both find the same mark, since both take the same bytes for an
escape.  So a text is refused by the first exactly if it stands for no characters
(`answer_text`), and what the first accepts is a way of writing what it answered
(`textOf_of_run`).
-/
import ReviewDesk.Proofs.Json.Tree
import ReviewDesk.Proofs.Json.Literals
import ReviewDesk.Proofs.Json.Texts

namespace ReviewDesk

/-- What bytes read as is what has these bytes. -/
theorem Text.bytes_of_ofBytes? {bs : Bytes} {x : String} (h : ofBytes? bs = some x) :
    bytes x = bs := by
  unfold ofBytes? String.fromUTF8? at h
  split at h
  · rw [Option.some.injEq] at h
    subst h
    rfl
  · cases h

namespace Json.Reader

variable {α σ : Type} {s t : Bytes}

/-! ### Runs of a repetition -/

section

variable {step : σ → Reader (σ ⊕ α)} {strict : ∀ st, (step st).Strict}

/-- A repetition that answers did so with its last step, and every step before it went on
from where it stopped. -/
theorem iterate_induction {motive : σ → Bytes → α → Bytes → Prop}
    (last : ∀ {st s a t}, (step st).run s = .ok (.inr a, t) → motive st s a t)
    (further : ∀ {st s st' r a t}, (step st).run s = .ok (.inl st', r) → motive st' r a t →
      motive st s a t)
    {st : σ} {a : α} (h : (iterate step strict st).run s = .ok (a, t)) : motive st s a t := by
  change iterateFrom step strict st s = .ok (a, t) at h
  fun_induction iterateFrom step strict st s with
  | case1 => cases h
  | case2 st s b r hs =>
      cases h
      exact last hs
  | case3 st s st' r hs ih => exact further hs (ih h)

end

/-! ### What is read as a text -/

theorem hex_of_run {n : Nat} (h : hexUnit.run s = .ok (n, t)) : Hex n s t := by
  unfold hexUnit at h
  dsimp only at h
  split at h
  · split at h
    · next ha hb hc hd =>
      cases h
      exact .mk ha hb hc hd
    · cases h
  · cases h

/-- Behind a leading half the other one is read, as an escape of its own. -/
theorem half_of_run {n : Nat} {c : Char}
    (h : (do
      let backslash ← next (.unfinished .text)
      if backslash != ascii '\\' then fail .unfinishedSurrogate
      else do
        let u ← next (.unfinished .text)
        if u != ascii 'u' then fail .unfinishedSurrogate
        else do
          let m ← hexUnit
          if isTrailing m then pure (joinHalves n m) else fail .loneLeadingSurrogate : Reader Char).run s
      = .ok (c, t)) :
    ∃ m s', s = ascii '\\' :: ascii 'u' :: s' ∧ Hex m s' t ∧ isTrailing m = true ∧
      c = joinHalves n m := by
  obtain ⟨b, r, hb, h₁⟩ := run_bind_eq_ok.mp h
  obtain rfl := run_next_eq_ok hb
  cases hslash : b != ascii '\\' with
  | true =>
      rw [hslash, if_pos rfl] at h₁
      cases h₁
  | false =>
      obtain rfl := bne_eq_false_iff_eq.mp hslash
      rw [hslash, if_neg Bool.false_ne_true] at h₁
      obtain ⟨u, r₂, hu, h₂⟩ := run_bind_eq_ok.mp h₁
      obtain rfl := run_next_eq_ok hu
      cases hletter : u != ascii 'u' with
      | true =>
          rw [hletter, if_pos rfl] at h₂
          cases h₂
      | false =>
          obtain rfl := bne_eq_false_iff_eq.mp hletter
          rw [hletter, if_neg Bool.false_ne_true] at h₂
          obtain ⟨m, r₃, hm, h₃⟩ := run_bind_eq_ok.mp h₂
          cases hhalf : isTrailing m with
          | false =>
              rw [hhalf, if_neg Bool.false_ne_true] at h₃
              cases h₃
          | true =>
              rw [hhalf, if_pos rfl, run_pure, Except.ok.injEq, Prod.mk.injEq] at h₃
              obtain ⟨hc, rfl⟩ := h₃
              exact ⟨m, r₂, rfl, hex_of_run hm, hhalf, hc.symm⟩

/-- The characters an escape can be read as: one unit that is no half, or two halves. -/
theorem unit_of_run {c : Char} (h : escapedUnit.run s = .ok (c, t)) :
    (∃ n, Hex n s t ∧ isTrailing n = false ∧ isLeading n = false ∧ c = Char.ofNat n) ∨
    (∃ n m s', Hex n s (ascii '\\' :: ascii 'u' :: s') ∧ Hex m s' t ∧ isLeading n = true ∧
      isTrailing m = true ∧ c = joinHalves n m) := by
  obtain ⟨n, r, hn, h₁⟩ := run_bind_eq_ok.mp h
  cases htrailing : isTrailing n with
  | true =>
      rw [htrailing, if_pos rfl] at h₁
      cases h₁
  | false =>
      rw [htrailing, if_neg Bool.false_ne_true] at h₁
      cases hleading : isLeading n with
      | false =>
          rw [hleading, if_neg Bool.false_ne_true] at h₁
          cases h₁
          exact .inl ⟨n, hex_of_run hn, htrailing, hleading, rfl⟩
      | true =>
          rw [hleading, if_pos rfl] at h₁
          obtain ⟨m, s', rfl, hm, hhalf, hc⟩ := half_of_run h₁
          exact .inr ⟨n, m, s', hex_of_run hn, hm, hleading, hhalf, hc⟩

/-- What follows a backslash, put in front of content, is content. -/
theorem content_of_escape {bs d t' : Bytes} (h : escape.run s = .ok (bs, t))
    (hd : Content d t t') : Content (bs ++ d) (ascii '\\' :: s) t' := by
  obtain ⟨b, r, hb, h₁⟩ := run_bind_eq_ok.mp h
  obtain rfl := run_next_eq_ok hb
  by_cases hu : b = ascii 'u'
  · subst hu
    rw [beq_self_eq_true, if_pos rfl] at h₁
    obtain ⟨c, r', hc, h₂⟩ := run_bind_eq_ok.mp h₁
    cases h₂
    rcases unit_of_run hc with
      ⟨n, hn, htrailing, hleading, heq⟩ | ⟨n, m, s', hn, hm, hleading, htrailing, heq⟩
    · rw [heq]
      exact .unit hn htrailing hleading hd
    · rw [heq]
      exact .halves hn hm hleading htrailing hd
  · rw [beq_eq_false_iff_ne.mpr hu, if_neg Bool.false_ne_true] at h₁
    split at h₁
    · next c hc =>
      cases h₁
      exact .short hc hd
    · cases h₁

/-- A step that goes on has collected what one byte or escape stands for. -/
theorem content_of_textStep_inl {collected collected' d t' : Bytes}
    (h : (textStep collected).run s = .ok (.inl collected', t)) (hd : Content d t t') :
    ∃ bs, collected'.reverse = collected.reverse ++ bs ∧ Content (bs ++ d) s t' := by
  obtain ⟨b, r, hb, h₁⟩ := run_bind_eq_ok.mp h
  obtain rfl := run_next_eq_ok hb
  by_cases hquote : b = ascii '"'
  · rw [if_pos (by simpa using hquote)] at h₁
    obtain ⟨x, r', -, h₂⟩ := run_bind_eq_ok.mp h₁
    cases h₂
  · rw [beq_eq_false_iff_ne.mpr hquote, if_neg Bool.false_ne_true] at h₁
    by_cases hslash : b = ascii '\\'
    · subst hslash
      rw [beq_self_eq_true, if_pos rfl] at h₁
      obtain ⟨bs, r', hbs, h₂⟩ := run_bind_eq_ok.mp h₁
      cases h₂
      exact ⟨bs, by simp, content_of_escape hbs hd⟩
    · rw [beq_eq_false_iff_ne.mpr hslash, if_neg Bool.false_ne_true] at h₁
      by_cases hcontrol : b < 0x20
      · rw [if_pos hcontrol] at h₁
        cases h₁
      · rw [if_neg hcontrol] at h₁
        cases h₁
        exact ⟨[b], by simp, .plain hquote hslash hcontrol hd⟩

theorem close_of_textStep_inr {collected : Bytes} {x : String}
    (h : (textStep collected).run s = .ok (.inr x, t)) :
    s = ascii '"' :: t ∧ Text.ofBytes? collected.reverse = some x := by
  obtain ⟨b, r, hb, h₁⟩ := run_bind_eq_ok.mp h
  obtain rfl := run_next_eq_ok hb
  by_cases hquote : b = ascii '"'
  · subst hquote
    rw [beq_self_eq_true, if_pos rfl] at h₁
    obtain ⟨y, r', hy, h₂⟩ := run_bind_eq_ok.mp h₁
    cases h₂
    obtain ⟨hclose, rfl⟩ := run_ofExcept_eq_ok.mp hy
    unfold closeText at hclose
    split at hclose
    · next hx =>
      cases hclose
      exact ⟨rfl, hx⟩
    · cases hclose
  · rw [beq_eq_false_iff_ne.mpr hquote, if_neg Bool.false_ne_true] at h₁
    split at h₁
    · obtain ⟨bs, r', -, h₂⟩ := run_bind_eq_ok.mp h₁
      cases h₂
    · split at h₁ <;> cases h₁

theorem content_of_collect {collected : Bytes} {x : String}
    {strict : ∀ c, (textStep c).Strict}
    (h : (iterate textStep strict collected).run s = .ok (x, t)) :
    ∃ d, Content d s t ∧ Text.ofBytes? (collected.reverse ++ d) = some x := by
  refine iterate_induction
    (motive := fun collected s x t =>
      ∃ d, Content d s t ∧ Text.ofBytes? (collected.reverse ++ d) = some x) ?last ?further h
  case last =>
    intro collected s x t hlast
    obtain ⟨rfl, hx⟩ := close_of_textStep_inr hlast
    exact ⟨[], .close, by rwa [List.append_nil]⟩
  case further =>
    rintro collected s collected' r x t hstep ⟨d, hd, hx⟩
    obtain ⟨bs, hbs, hcontent⟩ := content_of_textStep_inl hstep hd
    exact ⟨bs ++ d, hcontent, by rwa [hbs, List.append_assoc] at hx⟩

/-- Whatever was read as a text is one. -/
theorem textOf_of_run {x : String} (h : text.run s = .ok (x, t)) : TextOf x s t := by
  obtain ⟨d, hd, hx⟩ := content_of_collect h
  rwa [TextOf, Text.bytes_of_ofBytes? hx]

/-! ### What is passed over as a text -/

theorem run_skipEscape_short {b : UInt8} (h : (shortEscape? b).isSome = true) :
    skipEscape.run (b :: s) = .ok ((), s) := by
  have hu : b ≠ ascii 'u' := by
    rintro rfl
    cases h
  simp only [skipEscape, run_next_bind, beq_eq_false_iff_ne.mpr hu, Bool.false_eq_true, if_false, h,
    if_true, run_pure]

theorem run_skipEscape_unit {n : Nat} (h : Hex n s t) :
    skipEscape.run (ascii 'u' :: s) = .ok ((), t) := by
  simp only [skipEscape, run_next_bind, beq_self_eq_true, if_true]
  rw [run_bind_ok (run_hexUnit h), run_pure]

theorem run_skipTextStep_escape (h : skipEscape.run s = .ok ((), t)) :
    (skipTextStep ()).run (ascii '\\' :: s) = .ok (.inl (), t) := by
  have hquote : (ascii '\\' == ascii '"') = false := by decide
  simp only [skipTextStep, run_next_bind, hquote, beq_self_eq_true, Bool.false_eq_true, if_false,
    if_true]
  rw [run_bind_ok h, run_pure]

theorem run_skipTextStep_plain {b : UInt8} (hquote : b ≠ ascii '"') (hslash : b ≠ ascii '\\')
    (hcontrol : ¬ b < 0x20) : (skipTextStep ()).run (b :: s) = .ok (.inl (), s) := by
  simp only [skipTextStep, run_next_bind, beq_eq_false_iff_ne.mpr hquote,
    beq_eq_false_iff_ne.mpr hslash, if_neg hcontrol, Bool.false_eq_true, if_false, run_pure]

theorem run_passOver {strict : ∀ c, (skipTextStep c).Strict} (h : AnyText s t) :
    (iterate skipTextStep strict ()).run s = .ok ((), t) := by
  induction h with
  | close =>
      refine run_iterate_inr ?_
      simp only [skipTextStep, run_next_bind, beq_self_eq_true, if_true, run_pure]
  | plain hquote hslash hcontrol _ ih =>
      rw [run_iterate_inl (run_skipTextStep_plain hquote hslash hcontrol), ih]
  | short hb _ ih =>
      rw [run_iterate_inl (run_skipTextStep_escape (run_skipEscape_short hb)), ih]
  | unit hn _ ih =>
      rw [run_iterate_inl (run_skipTextStep_escape (run_skipEscape_unit hn)), ih]

theorem run_skipText (h : AnyText s t) : skipText.run s = .ok ((), t) :=
  run_passOver h

theorem anyText_of_skipEscape {t' : Bytes} (h : skipEscape.run s = .ok ((), t))
    (ht : AnyText t t') : AnyText (ascii '\\' :: s) t' := by
  obtain ⟨b, r, hb, h₁⟩ := run_bind_eq_ok.mp h
  obtain rfl := run_next_eq_ok hb
  by_cases hu : b = ascii 'u'
  · subst hu
    rw [beq_self_eq_true, if_pos rfl] at h₁
    obtain ⟨n, r', hn, h₂⟩ := run_bind_eq_ok.mp h₁
    cases h₂
    exact .unit (hex_of_run hn) ht
  · rw [beq_eq_false_iff_ne.mpr hu, if_neg Bool.false_ne_true] at h₁
    split at h₁
    · next hshort =>
      cases h₁
      exact .short hshort ht
    · cases h₁

/-- One step over a text closes it or stays in it. -/
theorem anyText_of_skipTextStep {o : Unit ⊕ Unit} (h : (skipTextStep ()).run s = .ok (o, t)) :
    (o = .inr () ∧ AnyText s t) ∨ (o = .inl () ∧ ∀ t', AnyText t t' → AnyText s t') := by
  obtain ⟨b, r, hb, h₁⟩ := run_bind_eq_ok.mp h
  obtain rfl := run_next_eq_ok hb
  by_cases hquote : b = ascii '"'
  · subst hquote
    rw [beq_self_eq_true, if_pos rfl] at h₁
    cases h₁
    exact .inl ⟨rfl, .close⟩
  · rw [beq_eq_false_iff_ne.mpr hquote, if_neg Bool.false_ne_true] at h₁
    by_cases hslash : b = ascii '\\'
    · subst hslash
      rw [beq_self_eq_true, if_pos rfl] at h₁
      obtain ⟨⟨⟩, r', hescape, h₂⟩ := run_bind_eq_ok.mp h₁
      cases h₂
      exact .inr ⟨rfl, fun _ => anyText_of_skipEscape hescape⟩
    · rw [beq_eq_false_iff_ne.mpr hslash, if_neg Bool.false_ne_true] at h₁
      by_cases hcontrol : b < 0x20
      · rw [if_pos hcontrol] at h₁
        cases h₁
      · rw [if_neg hcontrol] at h₁
        cases h₁
        exact .inr ⟨rfl, fun _ => .plain hquote hslash hcontrol⟩

theorem anyText_of_passOver {strict : ∀ c, (skipTextStep c).Strict}
    (h : (iterate skipTextStep strict ()).run s = .ok ((), t)) : AnyText s t := by
  refine iterate_induction (motive := fun _ s _ t => AnyText s t) ?last ?further h
  case last =>
    intro _ s _ t hlast
    rcases anyText_of_skipTextStep hlast with ⟨-, hs⟩ | ⟨⟨⟩, -⟩
    exact hs
  case further =>
    intro _ s _ r _ t hstep ih
    rcases anyText_of_skipTextStep hstep with ⟨⟨⟩, -⟩ | ⟨-, hs⟩
    exact hs t ih

theorem anyText_of_skipText (h : skipText.run s = .ok ((), t)) : AnyText s t :=
  anyText_of_passOver h

/-! ### Both readers -/

/-- A text has one end. -/
theorem anyText_unique {t' : Bytes} (h : AnyText s t) (h' : AnyText s t') : t = t' := by
  have hrun := run_skipText h
  rw [run_skipText h'] at hrun
  cases hrun
  rfl

/-- A text is read as what it stands for, and refused if that is nothing. -/
theorem answer_text {x : Option String} (h : TextOf? x s t) : text.answer s = x.map (·, t) := by
  cases x with
  | some x => exact answer_of_run (run_text h)
  | none =>
      cases hanswer : text.answer s with
      | none => rfl
      | some y =>
          have htext : TextOf y.1 s y.2 := textOf_of_run (run_of_answer hanswer)
          obtain rfl : t = y.2 := anyText_unique h.1 (Content.anyText htext)
          exact (h.2 y.1 htext).elim

end Json.Reader

end ReviewDesk
