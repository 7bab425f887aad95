/-
What the readers of values make of a tree.

`p.Means g` says what `p` answers in terms of the tree in front of it: `g` of that tree, and
nothing where `g` has nothing; and that wherever `p` answers, there was a tree in front of
it.  With both, a reader is known from `g`, a function that looks neither at bytes nor at
white space nor at escapes.  The meaning of a reader that is put together from others is
put together from theirs.

Which fault a reader stops at is not part of its meaning.
-/
import ReviewDesk.Proofs.Json.Skip

namespace ReviewDesk.Json

/-! ### What a tree can be taken for -/

namespace Tree

variable {α : Type}

/-- The text that a tree is. -/
def text? : Tree → Option String
  | .text x => x
  | _ => none

/-- The number that a tree is, if its literal has a value. -/
def number? : Tree → Option Number
  | .num l => l.value.toOption
  | _ => none

/-- An integer from 0 up to a bound, as a number that is one. -/
def natUpTo? (bound : Nat) (v : Tree) : Option Nat :=
  v.number?.bind fun
    | .int n => if 0 ≤ n ∧ n ≤ bound then some n.toNat else none
    | .double _ => none

def uint8? (v : Tree) : Option UInt8 :=
  (v.natUpTo? (UInt8.size - 1)).map Nat.toUInt8

def uint64? (v : Tree) : Option UInt64 :=
  (v.natUpTo? (UInt64.size - 1)).map Nat.toUInt64

def double? (v : Tree) : Option Float :=
  v.number?.map Number.toFloat

/-- Null for nothing, or else what `g` takes it for. -/
def optional? (g : Tree → Option α) : Tree → Option (Option α)
  | .null => some none
  | v => (g v).map some

/-- A list of what `g` takes the items for. -/
def list? (g : Tree → Option α) : Tree → Option (List α)
  | .list items => items.mapM g
  | _ => none

end Tree

/-! ### What a tree begins with -/

section

variable {v : Tree}

theorem text_of_opens (h : opens v.outline (ascii '"') = true) : ∃ x, v = .text x := by
  cases v with
  | text x => exact ⟨x, rfl⟩
  | bool c => cases c <;> cases h
  | _ => cases h

theorem list_of_opens (h : opens v.outline (ascii '[') = true) : ∃ items, v = .list items := by
  cases v with
  | list items => exact ⟨items, rfl⟩
  | bool c => cases c <;> cases h
  | _ => cases h

theorem object_of_opens (h : opens v.outline (ascii '\x7b') = true) : ∃ ms, v = .object ms := by
  cases v with
  | object ms => exact ⟨ms, rfl⟩
  | bool c => cases c <;> cases h
  | _ => cases h

theorem null_of_opens (h : opens v.outline (ascii 'n') = true) : v = .null := by
  cases v with
  | null => rfl
  | bool c => cases c <;> cases h
  | _ => cases h

theorem num_of_opens {b : UInt8} (h : opens v.outline b = true)
    (hb : (b == ascii '-' || isDigit b) = true) : ∃ l, v = .num l := by
  -- Every other value begins with a byte of its own, and no number begins with it.
  have other : ∀ c : Char, (ascii c == ascii '-' || isDigit (ascii c)) = false →
      (b == ascii c) ≠ true := by
    intro c hc heq
    rw [eq_of_beq heq, hc] at hb
    cases hb
  cases v with
  | num l => exact ⟨l, rfl⟩
  | null => exact (other 'n' (by decide) h).elim
  | text => exact (other '"' (by decide) h).elim
  | list => exact (other '[' (by decide) h).elim
  | object => exact (other '\x7b' (by decide) h).elim
  | bool c =>
      cases c with
      | true => exact (other 't' (by decide) h).elim
      | false => exact (other 'f' (by decide) h).elim

end

namespace Reader

variable {α β : Type} {s s' t : Bytes}

/-- What `p` answers is what `g` takes the tree in front of it for. -/
structure Means (p : Reader α) (g : Tree → Option α) : Prop where
  answer : ∀ ⦃s s' t v⦄, Blanks s s' → TreeOf v s' t → Ends t → p.answer s = (g v).map (·, t)
  tree : ∀ ⦃s a t⦄, p.run s = .ok (a, t) → ∃ v s', Blanks s s' ∧ TreeOf v s' t

/-! ### Building on a meaning -/

section

variable {p : Reader α} {g : Tree → Option α}

/-- To go on without using any input. -/
theorem Means.bind (h : p.Means g) {f : α → Reader β} {k : α → Option β}
    (hf : ∀ a s, (f a).answer s = (k a).map (·, s)) : (p >>= f).Means fun v => (g v).bind k where
  answer s s' t v hs hv ht := by
    rw [answer_bind, h.answer hs hv ht]
    cases g v with
    | none => rfl
    | some a => exact hf a t
  tree s b t hrun := by
    obtain ⟨a, r, hp, hrest⟩ := run_bind_eq_ok.mp hrun
    have hanswer := answer_of_run hrest
    rw [hf] at hanswer
    obtain ⟨b', -, heq⟩ := Option.map_eq_some_iff.mp hanswer
    cases heq
    exact h.tree hp

theorem Means.map (h : p.Means g) (f : α → β) :
    (p >>= fun a => pure (f a)).Means fun v => (g v).map f := by
  have hmap : (fun v => (g v).map f) = fun v => (g v).bind fun a => some (f a) :=
    funext fun v => by cases g v <;> rfl
  rw [hmap]
  exact h.bind fun _ _ => rfl

/-- A reader that looks at the first byte means what it means from that byte on. -/
theorem means_startingWith {read : UInt8 → Reader α}
    (answer : ∀ ⦃b s t v⦄, opens v.outline b = true → TreeOf v (b :: s) t → Ends t →
      (read b).answer (b :: s) = (g v).map (·, t))
    (tree : ∀ ⦃b s a t⦄, (read b).run (b :: s) = .ok (a, t) → ∃ v, TreeOf v (b :: s) t) :
    (startingWith read).Means g where
  answer s s' t v hs hv ht := by
    obtain ⟨b, r, rfl, hb⟩ := hv.opens
    rw [Reader.answer, run_startingWith hs (not_blank_of_opens hb).1]
    exact answer hb hv ht
  tree s a t hrun := by
    obtain ⟨b, s', hs, h₁⟩ := peek_after_blanks (never_fail _) hrun
    obtain ⟨v, hv⟩ := tree h₁
    exact ⟨v, b :: s', hs, hv⟩

/-- What is behind the value of a document. -/
theorem blanks_of_finish (h : finish.run s = .ok ((), t)) : Blanks s [] := by
  obtain ⟨s', hs, h₁⟩ := after_blanks h
  cases s' with
  | nil => exact hs
  | cons b s' => cases h₁

theorem run_finish (h : Blanks s []) : finish.run s = .ok ((), []) := by
  rw [finish, run_blanks_bind h (by rintro b ⟨⟩)]
  rfl

theorem document_eq_ok {bs : Bytes} {a : α} :
    p.document bs = .ok a ↔ ∃ t, p.run bs = .ok (a, t) ∧ Blanks t [] := by
  unfold document
  constructor
  · intro h
    split at h
    · next hrun =>
      cases h
      obtain ⟨b, t, hp, hrest⟩ := run_bind_eq_ok.mp hrun
      obtain ⟨⟨⟩, r, hfinish, hpure⟩ := run_bind_eq_ok.mp hrest
      cases hpure
      exact ⟨t, hp, blanks_of_finish hfinish⟩
    · cases h
  · rintro ⟨t, hp, ht⟩
    rw [run_bind_ok hp, run_bind_ok (run_finish ht)]
    rfl

theorem Means.document (h : p.Means g) {v : Tree} {bs : Bytes} (hdoc : TreeDocument v bs) {a : α} :
    p.document bs = .ok a ↔ g v = some a := by
  obtain ⟨s, t, hs, hv, ht⟩ := hdoc
  have hanswer := h.answer hs hv (ht.ends (by rintro b ⟨⟩))
  rw [document_eq_ok]
  constructor
  · rintro ⟨r, hrun, -⟩
    rw [answer_of_run hrun] at hanswer
    obtain ⟨b, hb, heq⟩ := Option.map_eq_some_iff.mp hanswer.symm
    cases heq
    exact hb
  · intro hg
    rw [hg] at hanswer
    exact ⟨t, run_of_answer hanswer, ht⟩

theorem Means.tree_of_document (h : p.Means g) {bs : Bytes} {a : α} (hdoc : p.document bs = .ok a) :
    ∃ v, TreeDocument v bs := by
  obtain ⟨t, hrun, ht⟩ := document_eq_ok.mp hdoc
  obtain ⟨v, s, hs, hv⟩ := h.tree hrun
  exact ⟨v, s, t, hs, hv, ht⟩

end

/-! ### Scalars -/

theorem means_textValue (expected : String) : (textValue expected).Means Tree.text? := by
  refine means_startingWith ?answer ?tree
  case answer =>
    intro b s t v hb hv _
    split
    · next hquote =>
      obtain rfl := eq_of_beq hquote
      obtain ⟨x, rfl⟩ := text_of_opens hb
      cases hv with
      | text hx => exact answer_text hx
    · next hquote =>
      rw [(never_mismatch expected).answer]
      cases v with
      | text => exact (hquote hb).elim
      | _ => rfl
  case tree =>
    intro b s a t hrun
    split at hrun
    · next hquote =>
      obtain rfl := eq_of_beq hquote
      exact ⟨_, .text (x := some a) (textOf_of_run hrun)⟩
    · exact (never_mismatch _ hrun).elim

theorem means_numberValue (expected : String) : (numberValue expected).Means Tree.number? := by
  refine means_startingWith ?answer ?tree
  case answer =>
    intro b s t v hb hv ht
    split
    · next hnum =>
      obtain ⟨l, rfl⟩ := num_of_opens hb hnum
      cases hv with
      | num hl =>
        rw [number, answer_bind_of_run (run_literal hl ht)]
        exact answer_ofExcept l.value t
    · next hnum =>
      rw [(never_mismatch expected).answer]
      cases v with
      | num => exact (hnum hb).elim
      | _ => rfl
  case tree =>
    intro b s a t hrun
    split at hrun
    · obtain ⟨l, r, hl, hvalue⟩ := run_bind_eq_ok.mp hrun
      obtain ⟨-, rfl⟩ := run_ofExcept_eq_ok.mp hvalue
      exact ⟨_, .num (literalOf_of_run hl)⟩
    · exact (never_mismatch _ hrun).elim

theorem means_natUpTo (bound : Nat) (expected : String) :
    (natUpTo bound expected).Means (Tree.natUpTo? bound) := by
  refine (means_numberValue expected).bind fun n s => ?_
  cases n with
  | double => rfl
  | int n =>
      dsimp only
      split <;> rfl

theorem means_uint8 : uint8.Means Tree.uint8? :=
  (means_natUpTo (UInt8.size - 1) "u8").map Nat.toUInt8

theorem means_uint64 : uint64.Means Tree.uint64? :=
  (means_natUpTo (UInt64.size - 1) "u64").map Nat.toUInt64

theorem means_double : double.Means Tree.double? :=
  (means_numberValue "f64").map Number.toFloat

/-! ### Something or nothing -/

theorem means_optional {p : Reader α} {g : Tree → Option α} (h : p.Means g) :
    (optional p).Means (Tree.optional? g) where
  answer s s' t v hs hv ht := by
    obtain ⟨b, r, rfl, hb⟩ := hv.opens
    rw [Reader.answer, optional, run_blanks hs (not_blank_of_opens hb).1, run_peek_bind,
      List.head?_cons]
    split
    · next hn =>
      obtain rfl : b = ascii 'n' := Option.some.inj (eq_of_beq hn)
      obtain rfl := null_of_opens hb
      cases hv
      rw [run_skip_bind]
      exact answer_of_run (run_bind_ok (run_word ['u', 'l', 'l'] t))
    · next hn =>
      have hanswer := (h.map some).answer .none hv ht
      cases v with
      | null =>
          obtain rfl := eq_of_beq hb
          exact (hn rfl).elim
      | _ => exact hanswer
  tree s a t hrun := by
    obtain ⟨s', hs, h₁⟩ := after_blanks hrun
    rw [run_peek_bind] at h₁
    split at h₁
    · next hn =>
      obtain ⟨r, rfl⟩ := List.head?_eq_some_iff.mp (eq_of_beq hn)
      rw [run_skip_bind] at h₁
      obtain ⟨⟨⟩, r', hword, hpure⟩ := run_bind_eq_ok.mp h₁
      cases hpure
      obtain rfl := word_of_run hword
      exact ⟨.null, _, hs, .null⟩
    · obtain ⟨b, r, hp, hpure⟩ := run_bind_eq_ok.mp h₁
      cases hpure
      obtain ⟨v, s'', hs', hv⟩ := h.tree hp
      exact ⟨v, s'', hs.trans hs', hv⟩

/-! ### What comes between brackets -/

/-- After an opening bracket there is the closing one, or else something. -/
theorem first_of_run {close : Char} {e : Fault} {more : Bool}
    (h : (do
      let _ ← blanks
      match ← peek with
      | none => fail e
      | some b => if b == ascii close then do skip; pure false else pure true : Reader Bool).run s =
        .ok (more, t)) :
    (more = false ∧ Blanks s (ascii close :: t)) ∨ (more = true ∧ Blanks s t) := by
  obtain ⟨b, s', hs, h₁⟩ := peek_after_blanks (never_fail _) h
  dsimp only at h₁
  split at h₁
  · next hb =>
    cases h₁
    rw [eq_of_beq hb] at hs
    exact .inl ⟨rfl, hs⟩
  · cases h₁
    exact .inr ⟨rfl, hs⟩

/-- After what stands between brackets there is the closing one, or else a comma; `p` only
looks at what is behind the comma. -/
theorem further_of_run {close : Char} {e e' : Fault} {p : Reader Bool} {more : Bool}
    (hp : ∀ {s t more}, p.run s = .ok (more, t) → more = true ∧ t = s)
    (h : (do
      let _ ← blanks
      let b ← next e
      if b == ascii close then pure false
      else if b == ascii ',' then do
        let _ ← blanks
        p
      else fail e' : Reader Bool).run s = .ok (more, t)) :
    (more = false ∧ Blanks s (ascii close :: t)) ∨
    (more = true ∧ ∃ s', Blanks s (ascii ',' :: s') ∧ Blanks s' t) := by
  obtain ⟨b, r, hs, h₁⟩ := next_after_blanks h
  split at h₁
  · next hclose =>
    cases h₁
    rw [eq_of_beq hclose] at hs
    exact .inl ⟨rfl, hs⟩
  split at h₁
  · next hcomma =>
    obtain ⟨s', hs', h₂⟩ := after_blanks h₁
    obtain ⟨rfl, rfl⟩ := hp h₂
    rw [eq_of_beq hcomma] at hs
    exact .inr ⟨rfl, _, hs, hs'⟩
  · cases h₁

/-! ### Lists -/

theorem firstItem_of_run {more : Bool} (h : firstItem.run s = .ok (more, t)) :
    (more = false ∧ Blanks s (ascii ']' :: t)) ∨ (more = true ∧ Blanks s t) :=
  first_of_run h

theorem furtherItem_of_run {more : Bool} (h : furtherItem.run s = .ok (more, t)) :
    (more = false ∧ Blanks s (ascii ']' :: t)) ∨
    (more = true ∧ ∃ s', Blanks s (ascii ',' :: s') ∧ Blanks s' t) := by
  refine further_of_run ?_ h
  intro s t more hp
  cases s with
  | nil => cases hp
  | cons c s =>
      rw [run_peek_bind] at hp
      dsimp only [List.head?_cons] at hp
      split at hp
      · cases hp
      · cases hp
        exact ⟨rfl, rfl⟩

section

variable {item : Reader α} {g : Tree → Option α} {vs : List Tree}
  {strict : ∀ st, (listStep item st).Strict}

/-- After an item; those before are held last first. -/
theorem answer_furtherItems (h : item.Means g) (hvs : Further ']' TreeOf vs s t)
    (before : List α) :
    (iterate (listStep item) strict before).answer s =
      (vs.mapM g).map fun as => (before.reverse ++ as, t) := by
  induction hvs generalizing before with
  | close hclose =>
      rw [answer_of_run (run_iterate_inr (run_bind_ok (run_furtherItem hclose)))]
      simp
  | @comma v vs s s₁ s₂ s₃ t hcomma hs hv hfurther ih =>
      have hanswer := h.answer .none hv (hfurther.ends (.inl rfl))
      obtain ⟨b, r, rfl, hb⟩ := hv.opens
      rw [answer_iterate, listStep, answer_bind_of_run (run_furtherItem_value hcomma hs hb),
        if_pos rfl, answer_bind, hanswer, List.mapM_cons]
      cases g v with
      | none => rfl
      | some a =>
          show (iterate (listStep item) strict (a :: before)).answer s₃ = _
          rw [ih]
          cases vs.mapM g with
          | none => rfl
          | some as => simp

theorem items_of_run {before as : List α} (h : item.Means g)
    (hrun : (iterate (listStep item) strict before).run s = .ok (as, t)) :
    ∃ vs, Further ']' TreeOf vs s t := by
  refine iterate_induction (motive := fun _ s _ t => ∃ vs, Further ']' TreeOf vs s t)
    ?last ?further hrun
  case last =>
    intro before s as t hlast
    obtain ⟨more, r, hmore, hrest⟩ := run_bind_eq_ok.mp hlast
    rcases furtherItem_of_run hmore with ⟨rfl, hclose⟩ | ⟨rfl, -⟩
    · cases hrest
      exact ⟨[], .close hclose⟩
    · obtain ⟨a, r', -, hpure⟩ := run_bind_eq_ok.mp hrest
      cases hpure
  case further =>
    rintro before s before' r as t hstep ⟨vs, hvs⟩
    obtain ⟨more, r', hmore, hrest⟩ := run_bind_eq_ok.mp hstep
    rcases furtherItem_of_run hmore with ⟨rfl, -⟩ | ⟨rfl, s', hcomma, hs⟩
    · cases hrest
    · obtain ⟨a, r'', hitem, hpure⟩ := run_bind_eq_ok.mp hrest
      cases hpure
      obtain ⟨v, s'', hs', hv⟩ := h.tree hitem
      exact ⟨v :: vs, .comma hcomma (hs.trans hs') hv hvs⟩

theorem answer_list (h : item.Means g) (hvs : Bracketed ']' TreeOf vs s t) :
    (list item).answer s = (vs.mapM g).map (·, t) := by
  rw [list]
  cases hvs with
  | empty hclose =>
      rw [answer_bind_of_run (run_firstItem hclose)]
      rfl
  | @first v vs s s₁ s₂ t hs hv hfurther =>
      have hanswer := h.answer .none hv (hfurther.ends (.inl rfl))
      obtain ⟨b, r, rfl, hb⟩ := hv.opens
      rw [answer_bind_of_run (run_firstItem_value hs hb), if_pos rfl, answer_bind, hanswer,
        List.mapM_cons]
      cases g v with
      | none => rfl
      | some a =>
          refine (answer_furtherItems h hfurther [a]).trans ?_
          cases vs.mapM g <;> rfl

theorem items_of_list {as : List α} (h : item.Means g) (hrun : (list item).run s = .ok (as, t)) :
    ∃ vs, Bracketed ']' TreeOf vs s t := by
  obtain ⟨more, r, hmore, hrest⟩ := run_bind_eq_ok.mp hrun
  rcases firstItem_of_run hmore with ⟨rfl, hclose⟩ | ⟨rfl, hs⟩
  · cases hrest
    exact ⟨[], .empty hclose⟩
  · obtain ⟨a, r', hitem, hfurther⟩ := run_bind_eq_ok.mp hrest
    obtain ⟨v, s', hs', hv⟩ := h.tree hitem
    obtain ⟨vs, hvs⟩ := items_of_run h hfurther
    exact ⟨v :: vs, .first (hs.trans hs') hv hvs⟩

theorem means_listValue (h : item.Means g) : (listValue item).Means (Tree.list? g) := by
  refine means_startingWith ?answer ?tree
  case answer =>
    intro b s t v hb hv _
    split
    · next hopen =>
      obtain rfl := eq_of_beq hopen
      obtain ⟨vs, rfl⟩ := list_of_opens hb
      cases hv with
      | list hvs => exact answer_list h hvs
    · next hopen =>
      rw [(never_mismatch _).answer]
      cases v with
      | list => exact (hopen hb).elim
      | _ => rfl
  case tree =>
    intro b s as t hrun
    split at hrun
    · next hopen =>
      obtain rfl := eq_of_beq hopen
      obtain ⟨vs, hvs⟩ := items_of_list h hrun
      exact ⟨.list vs, .list hvs⟩
    · exact (never_mismatch _ hrun).elim

end

end Reader

end ReviewDesk.Json
