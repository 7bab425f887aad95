/-
What the reader of an object makes of its members.

The members come one at a time, each with a key to look at and a state that tells what those
before it came to.  A reader of members keeps to a function on states and members (`Adds`) if
it does so for one member; an object then comes to that function folded over all of them.

A key that stands for no characters is refused, whatever it is the key of.
-/
import ReviewDesk.Proofs.Json.Meaning

namespace ReviewDesk.Json.Reader

variable {α β σ : Type} {s s' t : Bytes}

/-! ### One member -/

/-- What `p` answers from the colon of a member on. -/
structure MeansEntry (p : Reader α) (g : Tree → Option α) : Prop where
  answer : ∀ ⦃s s₁ s₂ t v⦄, Blanks s (ascii ':' :: s₁) → Blanks s₁ s₂ → TreeOf v s₂ t → Ends t →
    p.answer s = (g v).map (·, t)
  tree : ∀ ⦃s a t⦄, p.run s = .ok (a, t) →
    ∃ v s₁ s₂, Blanks s (ascii ':' :: s₁) ∧ Blanks s₁ s₂ ∧ TreeOf v s₂ t

theorem Means.entry {p : Reader α} {g : Tree → Option α} (h : p.Means g) :
    (colon >>= fun _ => p).MeansEntry g where
  answer s s₁ s₂ t v hcolon hs hv ht := by
    rw [answer_bind_of_run (run_colon hcolon), h.answer hs hv ht]
  tree s a t hrun := by
    obtain ⟨⟨⟩, r, hcolon, hp⟩ := run_bind_eq_ok.mp hrun
    obtain ⟨v, s', hs, hv⟩ := h.tree hp
    exact ⟨v, r, s', colon_of_run hcolon, hs, hv⟩

theorem MeansEntry.map {p : Reader α} {g : Tree → Option α} (h : p.MeansEntry g) (f : α → β) :
    (p >>= fun a => pure (f a)).MeansEntry fun v => (g v).map f where
  answer s s₁ s₂ t v hcolon hs hv ht := by
    rw [answer_bind, h.answer hcolon hs hv ht]
    cases g v <;> rfl
  tree s b t hrun := by
    obtain ⟨a, r, hp, hpure⟩ := run_bind_eq_ok.mp hrun
    cases hpure
    exact h.tree hp

theorem means_skipValue : skipValue.Means fun _ => some () where
  answer _ _ _ _ hs hv ht := answer_of_run (run_skipValue hs hv ht)
  tree _ _ _ hrun := tree_of_skipValue hrun

/-- What becomes of what the members came to when another one follows. -/
structure Adds (member : String → σ → Reader σ) (add : σ → Tree.Member → Option σ) : Prop where
  named : ∀ k st, (member k st).MeansEntry fun v => add st (some k, v)
  unnamed : ∀ st v, add st (none, v) = none

theorem answer_key {x : Option String} {atEnd : Unfinished}
    (h : Blanks s (ascii '"' :: s')) (hx : TextOf? x s' t) :
    (key text atEnd).answer s = x.map (·, t) := by
  rw [answer, key, run_blanks h (by decide), run_next_bind, if_pos (beq_self_eq_true _)]
  exact answer_text hx

theorem key_of_run {k : String} {atEnd : Unfinished} (h : (key text atEnd).run s = .ok (k, t)) :
    ∃ s', Blanks s (ascii '"' :: s') ∧ TextOf? (some k) s' t := by
  obtain ⟨b, r, hs, h₁⟩ := next_after_blanks h
  split at h₁
  · next hquote =>
    rw [eq_of_beq hquote] at hs
    exact ⟨r, hs, textOf_of_run h₁⟩
  · cases h₁

/-! ### All members -/

theorem firstMember_of_run {more : Bool} (h : firstMember.run s = .ok (more, t)) :
    (more = false ∧ Blanks s (ascii '\x7d' :: t)) ∨ (more = true ∧ Blanks s t) :=
  first_of_run h

theorem furtherMember_of_run {more : Bool} (h : furtherMember.run s = .ok (more, t)) :
    (more = false ∧ Blanks s (ascii '\x7d' :: t)) ∨
    (more = true ∧ ∃ s', Blanks s (ascii ',' :: s') ∧ Blanks s' t) := by
  refine further_of_run ?_ h
  intro s t more hp
  rw [run_peek_bind] at hp
  split at hp
  · cases hp
  · cases hp
    exact ⟨rfl, rfl⟩

variable {member : String → σ → Reader σ} {add : σ → Tree.Member → Option σ}
  {ms : List Tree.Member} {strict : ∀ st, (memberStep member st).Strict}

/-- A member is read and something else then, where its key is next. -/
theorem answer_entry (h : Adds member add) (atEnd : Unfinished) {m : Tree.Member}
    (hm : Entry TreeOf m s t) (ht : Ends t) (st : σ) (f : σ → Reader β) :
    (key text atEnd >>= fun k => member k st >>= f).answer s =
      (add st m).bind fun st' => (f st').answer t := by
  cases hm with
  | @mk k v _ _ _ _ _ hkey hcolon hs hv =>
    rw [answer_bind, answer_key .none hkey]
    cases k with
    | none => rw [h.unnamed, Option.map_none, Option.bind_none, Option.bind_none]
    | some k =>
        show (member k st >>= f).answer _ = _
        rw [answer_bind, (h.named k st).answer hcolon hs hv ht]
        cases add st (some k, v) <;> rfl

theorem entry_of_run (h : Adds member add) {atEnd : Unfinished} {st : σ} {f : σ → Reader β} {b : β}
    (hrun : (key text atEnd >>= fun k => member k st >>= f).run s = .ok (b, t)) :
    ∃ m st' s' r, Blanks s s' ∧ Entry TreeOf m s' r ∧ (f st').run r = .ok (b, t) := by
  obtain ⟨k, r, hkey, h₁⟩ := run_bind_eq_ok.mp hrun
  obtain ⟨st', r', hmember, h₂⟩ := run_bind_eq_ok.mp h₁
  obtain ⟨s', hs, hk⟩ := key_of_run hkey
  obtain ⟨v, s₁, s₂, hcolon, hs', hv⟩ := (h.named k st).tree hmember
  exact ⟨(some k, v), st', _, r', hs, .mk hk hcolon hs' hv, h₂⟩

theorem answer_furtherMembers (h : Adds member add) (hms : Further '\x7d' (Entry TreeOf) ms s t)
    (st : σ) :
    (iterate (memberStep member) strict st).answer s = (ms.foldlM add st).map (·, t) := by
  induction hms generalizing st with
  | close hclose =>
      rw [answer_of_run (run_iterate_inr (run_bind_ok (run_furtherMember hclose)))]
      rfl
  | @comma m ms s s₁ s₂ s₃ t hcomma hs hm hfurther ih =>
      have hanswer := answer_entry h .value hm (hfurther.ends (.inr rfl)) st
        fun st' => (pure (.inl st') : Reader (σ ⊕ σ))
      rw [answer_iterate, memberStep, List.foldlM_cons]
      cases hm with
      | mk =>
        rw [answer_bind_of_run (run_furtherMember_key hcomma hs), if_pos rfl, hanswer]
        cases add st _ with
        | none => rfl
        | some st' => exact ih st'

theorem answer_members (h : Adds member add) (hms : Bracketed '\x7d' (Entry TreeOf) ms s t)
    (st : σ) : (members member st).answer s = (ms.foldlM add st).map (·, t) := by
  rw [members]
  cases hms with
  | empty hclose =>
      rw [answer_bind_of_run (run_firstMember hclose)]
      rfl
  | @first m ms s s₁ s₂ t hs hm hfurther =>
      have hanswer := answer_entry h .object hm (hfurther.ends (.inr rfl)) st
        fun st' => iterate (memberStep member) (fun _ => strict_furtherMember.bind _) st'
      rw [List.foldlM_cons]
      cases hm with
      | mk =>
        rw [answer_bind_of_run (run_firstMember_key hs), if_pos rfl]
        refine hanswer.trans ?_
        cases add st _ with
        | none => rfl
        | some st' => exact answer_furtherMembers h hfurther st'

theorem entries_of_run (h : Adds member add) {st st' : σ}
    (hrun : (iterate (memberStep member) strict st).run s = .ok (st', t)) :
    ∃ ms, Further '\x7d' (Entry TreeOf) ms s t := by
  refine iterate_induction (motive := fun _ s _ t => ∃ ms, Further '\x7d' (Entry TreeOf) ms s t)
    ?last ?further hrun
  case last =>
    intro st s st' t hlast
    obtain ⟨more, r, hmore, hrest⟩ := run_bind_eq_ok.mp hlast
    rcases furtherMember_of_run hmore with ⟨rfl, hclose⟩ | ⟨rfl, -⟩
    · cases hrest
      exact ⟨[], .close hclose⟩
    · obtain ⟨m, st'', s', r', -, -, hpure⟩ := entry_of_run h hrest
      cases hpure
  case further =>
    rintro st s st₁ r st' t hstep ⟨ms, hms⟩
    obtain ⟨more, r', hmore, hrest⟩ := run_bind_eq_ok.mp hstep
    rcases furtherMember_of_run hmore with ⟨rfl, -⟩ | ⟨rfl, s', hcomma, hs⟩
    · cases hrest
    · obtain ⟨m, st'', s'', r'', hs', hm, hpure⟩ := entry_of_run h hrest
      cases hpure
      exact ⟨m :: ms, .comma hcomma (hs.trans hs') hm hms⟩

theorem entries_of_members (h : Adds member add) {st st' : σ}
    (hrun : (members member st).run s = .ok (st', t)) :
    ∃ ms, Bracketed '\x7d' (Entry TreeOf) ms s t := by
  obtain ⟨more, r, hmore, hrest⟩ := run_bind_eq_ok.mp hrun
  rcases firstMember_of_run hmore with ⟨rfl, hclose⟩ | ⟨rfl, hs⟩
  · cases hrest
    exact ⟨[], .empty hclose⟩
  · obtain ⟨m, st'', s', r', hs', hm, hfurther⟩ := entry_of_run h hrest
    obtain ⟨ms, hms⟩ := entries_of_run h hfurther
    exact ⟨m :: ms, .first (hs.trans hs') hm hms⟩

end ReviewDesk.Json.Reader
