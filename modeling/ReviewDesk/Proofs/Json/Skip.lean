/-
What is passed over is one tree.

The reader that passes over a value keeps the open brackets in a list, so what it has done
so far is half of many trees.  `Closing` says what a list of open brackets still asks of the
input: each is filled up and closed, from the innermost out.  A step takes what the state it
starts in asks for to what the state it ends in asks for, in both directions
(`going_of_skipStep`, `run_skipStep`), and the whole run then only repeats it.

From the front of the input to its end the induction is on what is still unread, since every
step uses some of it; from the end to the front it follows the run.
-/
import ReviewDesk.Proofs.Json.AnyTexts
import ReviewDesk.Proofs.Json.Records

namespace ReviewDesk.Json

open Reader

/-! ### What open brackets ask for -/

/-- From within these brackets, innermost first, to behind the last of them. -/
def Closing : List Bracket → Bytes → Bytes → Prop
  | [], s, t => s = t
  | .list :: around, s, t => ∃ items r, Further ']' TreeOf items s r ∧ Closing around r t
  | .object :: around, s, t => ∃ ms r, Further '\x7d' (Entry TreeOf) ms s r ∧ Closing around r t

/-- From a state of the reader to behind the outermost bracket. -/
def Going : Skipping → Bytes → Bytes → Prop
  | .value around, s, t => ∃ v s₁ s₂, Blanks s s₁ ∧ TreeOf v s₁ s₂ ∧ Closing around s₂ t
  | .opened .list around, s, t => ∃ items r, Bracketed ']' TreeOf items s r ∧ Closing around r t
  | .opened .object around, s, t =>
    ∃ ms r, Bracketed '\x7d' (Entry TreeOf) ms s r ∧ Closing around r t
  | .inside b around, s, t => Closing (b :: around) s t

/-- From what a step answers to behind the outermost bracket. -/
def After : Skipping ⊕ Unit → Bytes → Bytes → Prop
  | .inl st, s, t => Going st s t
  | .inr (), s, t => s = t

variable {around : List Bracket} {s s₁ s₂ r t : Bytes}

theorem after_skippedValue : After (skippedValue around) s t ↔ Closing around s t := by
  cases around <;> exact Iff.rfl

theorem Closing.ends (h : Closing around s t) (ht : Ends t) : Ends s := by
  match around, h with
  | [], rfl => exact ht
  | .list :: _, ⟨_, _, hfurther, _⟩ => exact hfurther.ends (.inl rfl)
  | .object :: _, ⟨_, _, hfurther, _⟩ => exact hfurther.ends (.inr rfl)

namespace Reader

/-! ### What was passed over is a tree -/

variable {α : Type} {a : α} {o : Skipping ⊕ Unit}

/-- What was read after white space was read from where it ends. -/
theorem after_blanks {p : Reader α} (h : (blanks >>= fun _ => p).run s = .ok (a, t)) :
    ∃ s', Blanks s s' ∧ p.run s' = .ok (a, t) :=
  ⟨s.dropWhile isBlank, blanks_dropWhile s, h⟩

/-- The byte behind white space, used up. -/
theorem next_after_blanks {e : Fault} {f : UInt8 → Reader α}
    (h : (blanks >>= fun _ => next e >>= f).run s = .ok (a, t)) :
    ∃ b s', Blanks s (b :: s') ∧ (f b).run s' = .ok (a, t) := by
  obtain ⟨s', hs, h₁⟩ := after_blanks h
  obtain ⟨b, r, hb, h₂⟩ := run_bind_eq_ok.mp h₁
  obtain rfl := run_next_eq_ok hb
  exact ⟨b, r, hs, h₂⟩

/-- The byte behind white space, looked at where there has to be one. -/
theorem peek_after_blanks {f : Option UInt8 → Reader α} (hend : (f none).Never)
    (h : (blanks >>= fun _ => peek >>= f).run s = .ok (a, t)) :
    ∃ b s', Blanks s (b :: s') ∧ (f (some b)).run (b :: s') = .ok (a, t) := by
  obtain ⟨s', hs, h₁⟩ := after_blanks h
  rw [run_peek_bind] at h₁
  cases s' with
  | nil => exact (hend h₁).elim
  | cons b s' => exact ⟨b, s', hs, h₁⟩

theorem colon_of_run (h : colon.run s = .ok ((), t)) : Blanks s (ascii ':' :: t) := by
  obtain ⟨b, s', hs, h₁⟩ := next_after_blanks h
  split at h₁
  · next hcolon =>
    cases h₁
    rwa [eq_of_beq hcolon] at hs
  · cases h₁

/-- A key and its colon, and then a value in an object, make a member of it. -/
theorem entry_of_skipKey {s' : Bytes} (htext : skipText.run s = .ok ((), s'))
    (hcolon : colon.run s' = .ok ((), r)) (hgoing : Going (.value (.object :: around)) r t) :
    ∃ m ms r', Entry TreeOf m (ascii '"' :: s) r' ∧
      ∃ r'', Further '\x7d' (Entry TreeOf) ms r' r'' ∧ Closing around r'' t := by
  obtain ⟨x, hx⟩ := (anyText_of_skipText htext).textOf?
  obtain ⟨v, s₁, s₂, hs, hv, ms, r'', hfurther, hclosing⟩ := hgoing
  exact ⟨(x, v), ms, s₂, .mk hx (colon_of_run hcolon) hs hv, r'', hfurther, hclosing⟩

/-- A value that is one word. -/
theorem going_of_word {c : Char} {cs : List Char} {v : Tree} {s' : Bytes}
    (hv : ∀ t, TreeOf v (ascii c :: (cs.map ascii ++ t)) t) (hs : Blanks s (ascii c :: s'))
    (h : (word cs >>= fun _ => pure (skippedValue around)).run s' = .ok (o, r))
    (ho : After o r t) : Going (.value around) s t := by
  obtain ⟨⟨⟩, r', hword, hpure⟩ := run_bind_eq_ok.mp h
  cases hpure
  obtain rfl := word_of_run hword
  exact ⟨v, _, _, hs, hv r, after_skippedValue.mp ho⟩

/-- A scalar or an opening bracket, read off its first byte. -/
theorem going_of_skipValueStep (h : (skipValueStep around).run s = .ok (o, r))
    (ho : After o r t) : Going (.value around) s t := by
  obtain ⟨b, s', hs, h₁⟩ := peek_after_blanks (never_fail _) h
  dsimp only at h₁
  split at h₁
  · obtain ⟨l, r', hl, h₂⟩ := run_bind_eq_ok.mp h₁
    cases h₂
    exact ⟨_, _, _, hs, .num (literalOf_of_run hl), after_skippedValue.mp ho⟩
  rw [run_next_bind] at h₁
  split at h₁
  · next hb =>
    cases h₁
    obtain ⟨items, r', hitems, hclosing⟩ := ho
    rw [eq_of_beq hb] at hs
    exact ⟨_, _, _, hs, .list hitems, hclosing⟩
  split at h₁
  · next hb =>
    cases h₁
    obtain ⟨ms, r', hms, hclosing⟩ := ho
    rw [eq_of_beq hb] at hs
    exact ⟨_, _, _, hs, .object hms, hclosing⟩
  split at h₁
  · next hb =>
    obtain ⟨⟨⟩, r', htext, h₂⟩ := run_bind_eq_ok.mp h₁
    cases h₂
    obtain ⟨x, hx⟩ := (anyText_of_skipText htext).textOf?
    rw [eq_of_beq hb] at hs
    exact ⟨_, _, _, hs, .text hx, after_skippedValue.mp ho⟩
  split at h₁
  · next hb =>
    rw [eq_of_beq hb] at hs
    exact going_of_word (fun _ => .null) hs h₁ ho
  split at h₁
  · next hb =>
    rw [eq_of_beq hb] at hs
    exact going_of_word (fun _ => .bool (b := true)) hs h₁ ho
  split at h₁
  · next hb =>
    rw [eq_of_beq hb] at hs
    exact going_of_word (fun _ => .bool (b := false)) hs h₁ ho
  · cases h₁

theorem going_of_skipOpenedStep {b : Bracket}
    (h : (skipOpenedStep around b).run s = .ok (o, r)) (ho : After o r t) :
    Going (.opened b around) s t := by
  cases b with
  | list =>
      obtain ⟨c, s', hs, h₁⟩ := peek_after_blanks (never_fail _) h
      dsimp only at h₁
      split at h₁
      · next hclose =>
        cases h₁
        rw [eq_of_beq hclose] at hs
        exact ⟨[], _, .empty hs, after_skippedValue.mp ho⟩
      -- Not closed at once, so the step is that of a value within this bracket.
      · obtain ⟨v, s₁, s₂, hblanks, hv, items, r', hfurther, hclosing⟩ :=
          going_of_skipValueStep h₁ ho
        exact ⟨v :: items, r', .first (hs.trans hblanks) hv hfurther, hclosing⟩
  | object =>
      obtain ⟨c, s', hs, h₁⟩ := next_after_blanks h
      split at h₁
      · next hclose =>
        cases h₁
        rw [eq_of_beq hclose] at hs
        exact ⟨[], _, .empty hs, after_skippedValue.mp ho⟩
      split at h₁
      · next hquote =>
        obtain ⟨⟨⟩, s₃, htext, h₂⟩ := run_bind_eq_ok.mp h₁
        obtain ⟨⟨⟩, s₄, hcolon, h₃⟩ := run_bind_eq_ok.mp h₂
        cases h₃
        rw [eq_of_beq hquote] at hs
        obtain ⟨m, ms, _, hm, r', hfurther, hclosing⟩ := entry_of_skipKey htext hcolon ho
        exact ⟨m :: ms, r', .first hs hm hfurther, hclosing⟩
      · cases h₁

theorem going_of_skipInsideStep {b : Bracket}
    (h : (skipInsideStep around b).run s = .ok (o, r)) (ho : After o r t) :
    Going (.inside b around) s t := by
  cases b with
  | list =>
      obtain ⟨c, s', hs, h₁⟩ := next_after_blanks h
      split at h₁
      · next hclose =>
        cases h₁
        rw [eq_of_beq hclose] at hs
        exact ⟨[], _, .close hs, after_skippedValue.mp ho⟩
      split at h₁
      · next hcomma =>
        cases h₁
        rw [eq_of_beq hcomma] at hs
        obtain ⟨v, s₁, s₂, hblanks, hv, items, r', hfurther, hclosing⟩ := ho
        exact ⟨v :: items, r', .comma hs hblanks hv hfurther, hclosing⟩
      · cases h₁
  | object =>
      obtain ⟨c, s', hs, h₁⟩ := next_after_blanks h
      split at h₁
      · next hclose =>
        cases h₁
        rw [eq_of_beq hclose] at hs
        exact ⟨[], _, .close hs, after_skippedValue.mp ho⟩
      split at h₁
      · next hcomma =>
        obtain ⟨⟨⟩, s₃, hkey, h₂⟩ := run_bind_eq_ok.mp h₁
        cases h₂
        obtain ⟨⟨⟩, s₄, htext, hcolon⟩ := run_bind_eq_ok.mp hkey
        obtain ⟨q, s₅, hblanks, h₃⟩ := next_after_blanks htext
        split at h₃
        · next hquote =>
          rw [eq_of_beq hcomma] at hs
          rw [eq_of_beq hquote] at hblanks
          obtain ⟨m, ms, _, hm, r', hfurther, hclosing⟩ := entry_of_skipKey h₃ hcolon ho
          exact ⟨m :: ms, r', .comma hs hblanks hm hfurther, hclosing⟩
        · cases h₃
      · cases h₁

theorem going_of_skipStep {st : Skipping} (h : (skipStep st).run s = .ok (o, r))
    (ho : After o r t) : Going st s t := by
  cases st with
  | value => exact going_of_skipValueStep h ho
  | opened => exact going_of_skipOpenedStep h ho
  | inside => exact going_of_skipInsideStep h ho

theorem going_of_run {st : Skipping} {strict : ∀ st, (skipStep st).Strict}
    (h : (iterate skipStep strict st).run s = .ok ((), t)) : Going st s t := by
  refine iterate_induction (motive := fun st s _ t => Going st s t) ?last ?further h
  case last => exact fun hlast => going_of_skipStep hlast rfl
  case further => exact fun hstep ih => going_of_skipStep hstep ih

/-- What was passed over is a tree, after white space. -/
theorem tree_of_skipValue (h : skipValue.run s = .ok ((), t)) :
    ∃ v s', Blanks s s' ∧ TreeOf v s' t := by
  obtain ⟨v, s₁, s₂, hs, hv, rfl⟩ := going_of_run h
  exact ⟨v, s₁, hs, hv⟩

/-! ### A tree is passed over -/

/-- From this state the reader takes a step towards what is asked for. -/
def Steps (st : Skipping) (s t : Bytes) : Prop :=
  ∃ o r, (skipStep st).run s = .ok (o, r) ∧ After o r t

theorem steps_value {v : Tree} (hs : Blanks s s₁) (hv : TreeOf v s₁ s₂)
    (hclosing : Closing around s₂ t) (ht : Ends t) : Steps (.value around) s t := by
  have hafter := after_skippedValue.mpr hclosing
  show ∃ o r, (skipValueStep around).run s = .ok (o, r) ∧ After o r t
  obtain ⟨b, rest, rfl, hb⟩ := hv.opens
  rw [skipValueStep, run_blanks hs (not_blank_of_opens hb).1, run_peek_bind]
  dsimp only [List.head?_cons]
  cases v with
  | num =>
      cases hv with
      | num hl =>
        rw [if_pos (show (b == ascii '-' || isDigit b) = true from hb),
          run_bind_ok (run_literal hl (hclosing.ends ht))]
        exact ⟨_, _, rfl, hafter⟩
  | list =>
      cases hv with
      | list h =>
        rw [if_neg (by decide), run_next_bind, if_pos (beq_self_eq_true _)]
        exact ⟨_, _, rfl, _, _, h, hclosing⟩
  | object =>
      cases hv with
      | object h =>
        rw [if_neg (by decide), run_next_bind, if_neg (by decide), if_pos (beq_self_eq_true _)]
        exact ⟨_, _, rfl, _, _, h, hclosing⟩
  | text =>
      cases hv with
      | text h =>
        rw [if_neg (by decide), run_next_bind, if_neg (by decide), if_neg (by decide),
          if_pos (beq_self_eq_true _), run_bind_ok (run_skipText h.anyText)]
        exact ⟨_, _, rfl, hafter⟩
  | null =>
      cases hv
      rw [if_neg (by decide), run_next_bind, if_neg (by decide), if_neg (by decide),
        if_neg (by decide), if_pos (beq_self_eq_true _)]
      exact ⟨_, _, run_bind_ok (run_word ['u', 'l', 'l'] s₂), hafter⟩
  | bool c =>
      cases c with
      | true =>
          cases hv
          rw [if_neg (by decide), run_next_bind, if_neg (by decide), if_neg (by decide),
            if_neg (by decide), if_neg (by decide), if_pos (beq_self_eq_true _)]
          exact ⟨_, _, run_bind_ok (run_word ['r', 'u', 'e'] s₂), hafter⟩
      | false =>
          cases hv
          rw [if_neg (by decide), run_next_bind, if_neg (by decide), if_neg (by decide),
            if_neg (by decide), if_neg (by decide), if_neg (by decide),
            if_pos (beq_self_eq_true _)]
          exact ⟨_, _, run_bind_ok (run_word ['a', 'l', 's', 'e'] s₂), hafter⟩

theorem run_skipKey {x : Option String} {s' : Bytes} (hquote : Blanks s (ascii '"' :: s'))
    (hx : TextOf? x s' s₁) (hcolon : Blanks s₁ (ascii ':' :: r)) :
    skipKey.run s = .ok ((), r) := by
  have hkey : (key skipText .object).run s = .ok ((), s₁) := by
    rw [key, run_blanks hquote (by decide), run_next_bind, if_pos (beq_self_eq_true _)]
    exact run_skipText hx.anyText
  rw [skipKey, run_bind_ok hkey, run_colon hcolon]

theorem steps_opened {b : Bracket} (h : Going (.opened b around) s t) (ht : Ends t) :
    Steps (.opened b around) s t := by
  show ∃ o r, (skipOpenedStep around b).run s = .ok (o, r) ∧ After o r t
  cases b with
  | list =>
      obtain ⟨items, r, hitems, hclosing⟩ := h
      rw [skipOpenedStep]
      cases hitems with
      | empty hclose =>
          rw [run_blanks hclose (by decide), run_peek_bind]
          dsimp only [List.head?_cons]
          rw [if_pos (beq_self_eq_true _), run_next_bind]
          exact ⟨_, _, rfl, after_skippedValue.mpr hclosing⟩
      | @first v vs _ _ s₂ _ hs hv hfurther =>
          obtain ⟨c, rest, rfl, hc⟩ := hv.opens
          obtain ⟨hblank, hclose⟩ := not_blank_of_opens hc
          rw [run_blanks hs hblank, run_peek_bind]
          dsimp only [List.head?_cons]
          rw [beq_eq_false_iff_ne.mpr hclose, if_neg Bool.false_ne_true]
          have hrest : Closing (.list :: around) s₂ t := ⟨vs, r, hfurther, hclosing⟩
          exact steps_value .none hv hrest ht
  | object =>
      obtain ⟨ms, r, hms, hclosing⟩ := h
      rw [skipOpenedStep]
      cases hms with
      | empty hclose =>
          rw [run_blanks hclose (by decide), run_next_bind, if_pos (beq_self_eq_true _)]
          exact ⟨_, _, rfl, after_skippedValue.mpr hclosing⟩
      | @first _ ms _ _ s₂ _ hs hm hfurther =>
          cases hm with
          | mk hkey hcolon hblanks hv =>
            rw [run_blanks hs (by decide), run_next_bind, if_neg (by decide),
              if_pos (beq_self_eq_true _), run_bind_ok (run_skipText hkey.anyText),
              run_bind_ok (run_colon hcolon)]
            have hrest : Closing (.object :: around) s₂ t := ⟨ms, r, hfurther, hclosing⟩
            exact ⟨_, _, rfl, _, _, _, hblanks, hv, hrest⟩

theorem steps_inside {b : Bracket} (h : Going (.inside b around) s t) :
    Steps (.inside b around) s t := by
  show ∃ o r, (skipInsideStep around b).run s = .ok (o, r) ∧ After o r t
  cases b with
  | list =>
      obtain ⟨items, r, hitems, hclosing⟩ := h
      rw [skipInsideStep]
      cases hitems with
      | close hclose =>
          rw [run_blanks hclose (by decide), run_next_bind, if_pos (beq_self_eq_true _)]
          exact ⟨_, _, rfl, after_skippedValue.mpr hclosing⟩
      | @comma v vs _ _ _ s₃ _ hcomma hs hv hfurther =>
          rw [run_blanks hcomma (by decide), run_next_bind, if_neg (by decide),
            if_pos (beq_self_eq_true _)]
          have hrest : Closing (.list :: around) s₃ t := ⟨vs, r, hfurther, hclosing⟩
          exact ⟨_, _, rfl, v, _, s₃, hs, hv, hrest⟩
  | object =>
      obtain ⟨ms, r, hms, hclosing⟩ := h
      rw [skipInsideStep]
      cases hms with
      | close hclose =>
          rw [run_blanks hclose (by decide), run_next_bind, if_pos (beq_self_eq_true _)]
          exact ⟨_, _, rfl, after_skippedValue.mpr hclosing⟩
      | @comma _ ms _ _ _ s₃ _ hcomma hs hm hfurther =>
          cases hm with
          | mk hkey hcolon hblanks hv =>
            rw [run_blanks hcomma (by decide), run_next_bind, if_neg (by decide),
              if_pos (beq_self_eq_true _), run_bind_ok (run_skipKey hs hkey hcolon)]
            have hrest : Closing (.object :: around) s₃ t := ⟨ms, r, hfurther, hclosing⟩
            exact ⟨_, _, rfl, _, _, s₃, hblanks, hv, hrest⟩

theorem steps_of_going {st : Skipping} (h : Going st s t) (ht : Ends t) : Steps st s t := by
  cases st with
  | value around =>
      obtain ⟨v, s₁, s₂, hs, hv, hclosing⟩ := h
      exact steps_value hs hv hclosing ht
  | opened => exact steps_opened h ht
  | inside => exact steps_inside h

/-- By induction on how much is unread, since a step uses some of it. -/
theorem run_of_going {st : Skipping} {strict : ∀ st, (skipStep st).Strict} (h : Going st s t)
    (ht : Ends t) : (iterate skipStep strict st).run s = .ok ((), t) := by
  induction hn : s.length using Nat.strongRecOn generalizing st s with
  | ind n ih =>
      obtain ⟨o, r, hstep, hafter⟩ := steps_of_going h ht
      have hlt : r.length < s.length := strict st hstep
      match o, hafter with
      | .inr (), rfl => exact run_iterate_inr hstep
      | .inl st', hgoing =>
        rw [run_iterate_inl hstep]
        exact ih r.length (hn ▸ hlt) hgoing rfl

/-- Every tree is passed over, after white space. -/
theorem run_skipValue {v : Tree} (hs : Blanks s s₁) (hv : TreeOf v s₁ t) (ht : Ends t) :
    skipValue.run s = .ok ((), t) :=
  run_of_going ⟨v, s₁, t, hs, hv, rfl⟩ ht

end Reader

end ReviewDesk.Json
