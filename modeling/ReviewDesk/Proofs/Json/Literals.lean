/-
Number literals are read to their end, and what is read is a literal.

A literal has no closing mark: it is over where a byte comes that cannot go on with it.
So the reader takes a literal whole only before such a byte (`run_literal`), and after a
value there is no other.  The converse, that whatever was read is a literal
(`literalOf_of_run`), needs nothing of what follows.
-/
import ReviewDesk.Proofs.Json.Run
import ReviewDesk.Proofs.Json.Grammar

namespace ReviewDesk.Json

/-- What cannot go on with a row of digits. -/
def NoDigit (t : Bytes) : Prop :=
  ∀ b ∈ t.head?, isDigit b = false

theorem Ends.stops {t : Bytes} (h : Ends t) {b : UInt8} (hb : b ∈ t.head?) :
    isDigit b = false ∧ (b == ascii '.') = false ∧ (b == ascii 'e' || b == ascii 'E') = false := by
  have hends := h b hb
  simp only [isBlank, Bool.or_eq_true, beq_iff_eq] at hends
  rcases hends with ((((((rfl | rfl) | rfl) | rfl) | rfl) | rfl) | rfl) <;> decide

theorem ExponentOf.stops {e : Option Exponent} {s t : Bytes} (h : ExponentOf e s t)
    (ht : Ends t) {b : UInt8} (hb : b ∈ s.head?) :
    isDigit b = false ∧ (b == ascii '.') = false := by
  cases h with
  | none => exact ⟨(ht.stops hb).1, (ht.stops hb).2.1⟩
  | some he => rcases he with rfl | rfl <;> cases hb <;> decide

theorem Fraction.noDigit {ds s s' : Bytes} (h : Fraction ds s s')
    (hs' : NoDigit s') : NoDigit s := by
  cases h with
  | none => exact hs'
  | point =>
      rintro b ⟨⟩
      decide

theorem Digits.cons {ds s t : Bytes} (h : Digits ds s t) :
    ∃ d rest, ds = d :: rest ∧ isDigit d = true ∧ (∀ c ∈ rest, isDigit c = true) ∧
      s = d :: (rest ++ t) := by
  obtain ⟨hsome, hall, rfl⟩ := h
  obtain ⟨d, rest, rfl⟩ := List.exists_cons_of_ne_nil hsome
  have hrest : ∀ c ∈ rest, isDigit c = true := fun c hc => hall c (List.mem_cons_of_mem _ hc)
  exact ⟨d, rest, rfl, hall d (List.mem_cons_self ..), hrest, rfl⟩

namespace Reader

/-! ### From the literal to what is read -/

theorem run_accept_some {p : UInt8 → Bool} {b : UInt8} {s : Bytes} (h : p b = true) :
    (accept p).run (b :: s) = .ok (some b, s) := by
  simp only [accept, run_peek_bind, List.head?_cons, h, if_true, run_skip_bind, run_pure]

theorem run_accept_none {p : UInt8 → Bool} {s : Bytes} (h : ∀ b ∈ s.head?, p b = false) :
    (accept p).run s = .ok (none, s) := by
  cases s with
  | nil => rfl
  | cons b s =>
      have hb : p b = false := h b rfl
      simp only [accept, run_peek_bind, List.head?_cons, hb, Bool.false_eq_true, if_false, run_pure]

theorem takeWhile_digits {ds t : Bytes} (h : ∀ d ∈ ds, isDigit d = true) (ht : NoDigit t) :
    (ds ++ t).takeWhile isDigit = ds ∧ (ds ++ t).dropWhile isDigit = t := by
  induction ds with
  | nil =>
      cases t with
      | nil => exact ⟨rfl, rfl⟩
      | cons b t => simp [ht b rfl]
  | cons d ds ih =>
      obtain ⟨htake, hdrop⟩ := ih fun c hc => h c (List.mem_cons_of_mem _ hc)
      simp [h d (List.mem_cons_self ..), htake, hdrop]

variable {e : Fault} {s t : Bytes}

theorem run_someDigits {ds : Bytes} (h : Digits ds s t) (ht : NoDigit t) :
    (someDigits e).run s = .ok (ds, t) := by
  obtain ⟨d, rest, rfl, hd, hrest, rfl⟩ := h.cons
  obtain ⟨htake, hdrop⟩ := takeWhile_digits hrest ht
  simp only [someDigits, run_next_bind, hd, if_true, run_takeWhile_bind, htake, hdrop, run_pure]

theorem run_wholeDigits {ds : Bytes} (h : Whole ds s t) (ht : NoDigit t) :
    (wholeDigits e).run s = .ok (ds, t) := by
  obtain ⟨d, rest, rfl, hd, hrest, rfl⟩ := h.toDigits.cons
  by_cases hz : d = ascii '0'
  · subst hz
    obtain rfl : rest = [] := by simpa using h.zero rfl
    cases t with
    | nil => rfl
    | cons b t =>
        have hb : isDigit b = false := ht b rfl
        simp only [wholeDigits, run_next_bind, beq_self_eq_true, if_true, List.nil_append,
          run_peek_bind, List.head?_cons, hb, Bool.false_eq_true, if_false, run_pure]
  · obtain ⟨htake, hdrop⟩ := takeWhile_digits hrest ht
    simp only [wholeDigits, run_next_bind, beq_eq_false_iff_ne.mpr hz, Bool.false_eq_true, if_false,
      hd, if_true, run_takeWhile_bind, htake, hdrop, run_pure]

theorem run_fractionDigits {ds : Bytes} (h : Fraction ds s t) (ht : NoDigit t)
    (hpoint : ∀ b ∈ t.head?, (b == ascii '.') = false) :
    (fractionDigits e).run s = .ok (ds, t) := by
  cases h with
  | none => rw [fractionDigits, run_bind_ok (run_accept_none hpoint), run_pure]
  | point h =>
      rw [fractionDigits, run_bind_ok (run_accept_some (b := ascii '.') rfl)]
      exact run_someDigits h ht

theorem not_minus_of_isDigit {b : UInt8} (h : isDigit b = true) : (b == ascii '-') = false :=
  beq_eq_false_iff_ne.mpr (by rintro rfl; cases h)

/-- The sign of an exponent, as the reader keeps it. -/
theorem run_accept_sign {neg : Bool} {ds s' : Bytes} (h : ExponentSign neg s s')
    (hds : Digits ds s' t) :
    ∃ o, (accept (fun b => b == ascii '+' || b == ascii '-')).run s = .ok (o, s') ∧
      (o == some (ascii '-')) = neg := by
  cases h with
  | none =>
      obtain ⟨d, rest, -, hd, -, rfl⟩ := hds.cons
      refine ⟨none, run_accept_none ?_, rfl⟩
      rintro b ⟨⟩
      rw [not_minus_of_isDigit hd, Bool.or_false]
      exact beq_eq_false_iff_ne.mpr (by rintro rfl; cases hd)
  | plus => exact ⟨_, run_accept_some rfl, by decide⟩
  | minus => exact ⟨_, run_accept_some rfl, by decide⟩

theorem run_exponentPart {o : Option Exponent} (h : ExponentOf o s t) (ht : Ends t) :
    (exponentPart e).run s = .ok (o, t) := by
  cases h with
  | none =>
      have hstop : ∀ b ∈ s.head?, (b == ascii 'e' || b == ascii 'E') = false :=
        fun b hb => (ht.stops hb).2.2
      rw [exponentPart, run_bind_ok (run_accept_none hstop), run_pure]
  | @some c neg ds s s' _ he hsign hds =>
      have hc : (c == ascii 'e' || c == ascii 'E') = true := by simpa using he
      obtain ⟨sign, hrun, hneg⟩ := run_accept_sign hsign hds
      have hdigits := run_someDigits (e := e) hds fun b hb => (ht.stops hb).1
      rw [exponentPart, run_bind_ok (run_accept_some hc)]
      simp only
      rw [run_bind_ok hrun, run_bind_ok hdigits, run_pure, hneg]

theorem run_accept_minus {neg : Bool} {ds s' : Bytes} (h : Sign neg s s') (hds : Digits ds s' t) :
    ∃ o, (accept (· == ascii '-')).run s = .ok (o, s') ∧ o.isSome = neg := by
  cases h with
  | plus =>
      obtain ⟨d, rest, -, hd, -, rfl⟩ := hds.cons
      refine ⟨none, run_accept_none ?_, rfl⟩
      rintro b ⟨⟩
      exact not_minus_of_isDigit hd
  | minus => exact ⟨_, run_accept_some rfl, rfl⟩

/-- A literal is read whole where no byte follows that could go on with it. -/
theorem run_literal {l : Literal} (h : LiteralOf l s t) (ht : Ends t) :
    (literal e).run s = .ok (l, t) := by
  obtain ⟨hsign, hwhole, hfraction, hexponent⟩ := h
  have hdigit := fun b hb => (hexponent.stops ht (b := b) hb).1
  have hpoint := fun b hb => (hexponent.stops ht (b := b) hb).2
  obtain ⟨sign, hrun, hneg⟩ := run_accept_minus hsign hwhole.toDigits
  rw [literal, run_bind_ok hrun, run_bind_ok (run_wholeDigits hwhole (hfraction.noDigit hdigit)),
    run_bind_ok (run_fractionDigits hfraction hdigit hpoint),
    run_bind_ok (run_exponentPart hexponent ht), run_pure, hneg]

theorem run_number {l : Literal} {n : Number} (h : LiteralOf l s t) (ht : Ends t)
    (hn : l.value = .ok n) : number.run s = .ok (n, t) := by
  rw [number, run_bind_ok (run_literal h ht)]
  exact run_ofExcept_eq_ok.mpr ⟨hn, rfl⟩

/-! ### From what is read to the literal -/

theorem run_accept_eq_ok {p : UInt8 → Bool} {o : Option UInt8}
    (h : (accept p).run s = .ok (o, t)) :
    (∃ b, o = some b ∧ p b = true ∧ s = b :: t) ∨ (o = none ∧ t = s) := by
  cases s with
  | nil =>
      cases h
      exact .inr ⟨rfl, rfl⟩
  | cons b r =>
      cases hb : p b with
      | true =>
          rw [run_accept_some hb] at h
          cases h
          exact .inl ⟨b, rfl, hb, rfl⟩
      | false =>
          rw [run_accept_none (by rintro c ⟨⟩; exact hb)] at h
          cases h
          exact .inr ⟨rfl, rfl⟩

theorem digits_of_takeWhile {d : UInt8} (hd : isDigit d = true) (s : Bytes) :
    Digits (d :: s.takeWhile isDigit) (d :: s) (s.dropWhile isDigit) where
  some := List.cons_ne_nil _ _
  all c hc := by
    rcases List.mem_cons.mp hc with rfl | hc
    · exact hd
    · exact List.all_eq_true.mp List.all_takeWhile c hc
  split := by rw [List.cons_append, List.takeWhile_append_dropWhile]

theorem digits_of_someDigits {ds : Bytes} (h : (someDigits e).run s = .ok (ds, t)) :
    Digits ds s t := by
  obtain ⟨d, r, hnext, hrest⟩ := run_bind_eq_ok.mp h
  obtain rfl := run_next_eq_ok hnext
  cases hd : isDigit d with
  | false =>
      rw [hd] at hrest
      cases hrest
  | true =>
      rw [hd] at hrest
      cases hrest
      exact digits_of_takeWhile hd r

theorem whole_of_wholeDigits {ds : Bytes} (h : (wholeDigits e).run s = .ok (ds, t)) :
    Whole ds s t := by
  obtain ⟨d, r, hnext, hrest⟩ := run_bind_eq_ok.mp h
  obtain rfl := run_next_eq_ok hnext
  by_cases hz : d = ascii '0'
  · subst hz
    simp only [beq_self_eq_true, if_true, run_peek_bind] at hrest
    have hzero : ds = [ascii '0'] ∧ t = r := by
      split at hrest
      · split at hrest
        · cases hrest
        · cases hrest
          exact ⟨rfl, rfl⟩
      · cases hrest
        exact ⟨rfl, rfl⟩
    obtain ⟨rfl, rfl⟩ := hzero
    exact ⟨⟨List.cons_ne_nil _ _, List.forall_mem_singleton.mpr (by decide), rfl⟩, fun _ => rfl⟩
  · simp only [beq_eq_false_iff_ne.mpr hz, Bool.false_eq_true, if_false] at hrest
    cases hd : isDigit d with
    | false =>
        rw [hd] at hrest
        cases hrest
    | true =>
        rw [hd] at hrest
        cases hrest
        exact ⟨digits_of_takeWhile hd r, fun h0 => absurd (Option.some.inj h0) hz⟩

theorem fraction_of_fractionDigits {ds : Bytes} (h : (fractionDigits e).run s = .ok (ds, t)) :
    Fraction ds s t := by
  obtain ⟨o, r, haccept, hrest⟩ := run_bind_eq_ok.mp h
  rcases run_accept_eq_ok haccept with ⟨b, rfl, hb, rfl⟩ | ⟨rfl, rfl⟩
  · obtain rfl : b = ascii '.' := by simpa using hb
    exact .point (digits_of_someDigits hrest)
  · cases hrest
    exact .none

theorem exponentSign_of_accept {o : Option UInt8}
    (h : (accept (fun b => b == ascii '+' || b == ascii '-')).run s = .ok (o, t)) :
    ExponentSign (o == some (ascii '-')) s t := by
  rcases run_accept_eq_ok h with ⟨b, rfl, hb, rfl⟩ | ⟨rfl, rfl⟩
  · rcases (by simpa using hb : b = ascii '+' ∨ b = ascii '-') with rfl | rfl
    · exact .plus
    · exact .minus
  · exact .none

theorem exponentOf_of_exponentPart {o : Option Exponent}
    (h : (exponentPart e).run s = .ok (o, t)) : ExponentOf o s t := by
  obtain ⟨c, r, haccept, hrest⟩ := run_bind_eq_ok.mp h
  rcases run_accept_eq_ok haccept with ⟨b, rfl, hb, rfl⟩ | ⟨rfl, rfl⟩
  · have hb' : b = ascii 'e' ∨ b = ascii 'E' := by simpa using hb
    obtain ⟨sign, r', hsign, hdigits⟩ := run_bind_eq_ok.mp hrest
    obtain ⟨ds, r'', hds, hlast⟩ := run_bind_eq_ok.mp hdigits
    cases hlast
    exact .some hb' (exponentSign_of_accept hsign) (digits_of_someDigits hds)
  · cases hrest
    exact .none

theorem sign_of_accept {o : Option UInt8} (h : (accept (· == ascii '-')).run s = .ok (o, t)) :
    Sign o.isSome s t := by
  rcases run_accept_eq_ok h with ⟨b, rfl, hb, rfl⟩ | ⟨rfl, rfl⟩
  · obtain rfl : b = ascii '-' := by simpa using hb
    exact .minus
  · exact .plus

/-- Whatever was read as a literal is one. -/
theorem literalOf_of_run {l : Literal} (h : (literal e).run s = .ok (l, t)) :
    LiteralOf l s t := by
  obtain ⟨sign, s₁, hsign, h₁⟩ := run_bind_eq_ok.mp h
  obtain ⟨whole, s₂, hwhole, h₂⟩ := run_bind_eq_ok.mp h₁
  obtain ⟨fraction, s₃, hfraction, h₃⟩ := run_bind_eq_ok.mp h₂
  obtain ⟨exponent, s₄, hexponent, h₄⟩ := run_bind_eq_ok.mp h₃
  cases h₄
  exact .mk (sign_of_accept hsign) (whole_of_wholeDigits hwhole)
    (fraction_of_fractionDigits hfraction) (exponentOf_of_exponentPart hexponent)

/-- Where a number is wanted and read, a literal with its value follows the white space. -/
theorem literal_of_numberValue {expected : String} {n : Number} {s t : Bytes}
    (h : (numberValue expected).run s = .ok (n, t)) :
    ∃ l, LiteralOf l (s.dropWhile isBlank) t ∧ l.value = .ok n := by
  obtain ⟨w, r, hblanks, hpeek⟩ := run_bind_eq_ok.mp h
  cases hblanks
  rw [run_peek_bind] at hpeek
  split at hpeek
  · exact (never_fail _ hpeek).elim
  · next b hb =>
    dsimp only at hpeek
    split at hpeek
    · obtain ⟨l, r, hliteral, hvalue⟩ := run_bind_eq_ok.mp hpeek
      obtain ⟨hl, rfl⟩ := run_ofExcept_eq_ok.mp hvalue
      exact ⟨l, literalOf_of_run hliteral, hl⟩
    · exact (never_mismatch _ hpeek).elim

end Reader

end ReviewDesk.Json
