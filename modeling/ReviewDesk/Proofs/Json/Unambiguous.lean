/-
What comes next is told by one byte.

The kind of a value is told by the byte it begins with, and between brackets the byte after
the white space tells whether there is more.  So what stands between brackets is of one row
of things only, if each thing has texts of its own.  Texts and number literals are taken
over from the readers, which take every one of them and cannot come to two answers.

A literal has no closing mark, so all this is shown for texts that end where a value can
end.  Between brackets that is so at every comma, and at the end of a document.
-/
import ReviewDesk.Proofs.Json.Literals
import ReviewDesk.Proofs.Json.Reads
import ReviewDesk.Proofs.Json.Texts

namespace ReviewDesk.Json

variable {s t t' : Bytes}

/-! ### What a byte tells -/

/-- A value of the same kind. -/
def outline : Json → Json
  | .null => .null
  | .bool b => .bool b
  | .num _ => .num (.int 0)
  | .text _ => .text ""
  | .list _ => .list []
  | .object _ => .object []

/-- The kind of value that begins with a byte. -/
def openedBy (b : UInt8) : Json :=
  if b = ascii 'n' then .null
  else if b = ascii 't' then .bool true
  else if b = ascii 'f' then .bool false
  else if b = ascii '"' then .text ""
  else if b = ascii '[' then .list []
  else if b = ascii '\x7b' then .object []
  else .num (.int 0)

theorem openedBy_number {b : UInt8} (h : (b == ascii '-' || isDigit b) = true) :
    openedBy b = .num (.int 0) := by
  have other : ∀ c : Char, (ascii c == ascii '-' || isDigit (ascii c)) = false → b ≠ ascii c := by
    intro c hc heq
    rw [heq, hc] at h
    cases h
  unfold openedBy
  rw [if_neg (other 'n' (by decide)), if_neg (other 't' (by decide)),
    if_neg (other 'f' (by decide)), if_neg (other '"' (by decide)),
    if_neg (other '[' (by decide)), if_neg (other '\x7b' (by decide))]

theorem outline_of_opens {v : Json} {b : UInt8} (h : opens v b = true) :
    v.outline = openedBy b := by
  cases v with
  | num n => exact (openedBy_number h).symm
  | bool c =>
      cases c with
      | true =>
          rw [eq_of_beq h]
          rfl
      | false =>
          rw [eq_of_beq h]
          rfl
  | _ =>
      rw [eq_of_beq h]
      rfl

theorem Blanks.unique (h : Blanks s t) (h' : Blanks s t') (ht : ∀ b ∈ t.head?, isBlank b = false)
    (ht' : ∀ b ∈ t'.head?, isBlank b = false) : t' = t := by
  rw [← dropWhile_of_not_blank ht, ← dropWhile_of_not_blank ht', ← h.dropWhile, ← h'.dropWhile]

theorem Blanks.unique_cons {b b' : UInt8} (h : Blanks s (b :: t)) (h' : Blanks s (b' :: t'))
    (hb : isBlank b = false) (hb' : isBlank b' = false) : b' = b ∧ t' = t := by
  have heq := h.unique h' (by simpa using hb) (by simpa using hb')
  simpa using heq

/-! ### Parts without brackets -/

theorem TextOf.unique {x x' : String} (h : TextOf x s t) (h' : TextOf x' s t') :
    x' = x ∧ t' = t := by
  have hrun := Reader.run_text h
  rw [Reader.run_text h'] at hrun
  simpa using hrun

theorem LiteralOf.unique {l l' : Literal} (h : LiteralOf l s t) (h' : LiteralOf l' s t')
    (ht : Ends t) (ht' : Ends t') : l' = l ∧ t' = t := by
  have hrun := Reader.run_literal (e := .expectedValue) h ht
  rw [Reader.run_literal h' ht'] at hrun
  simpa using hrun

/-! ### Between brackets -/

section

variable {α : Type} {thing : α → Bytes → Bytes → Prop} {close : Char}

/-- No other thing has a text of this one, where both end as values end. -/
def Only (thing : α → Bytes → Bytes → Prop) (x : α) : Prop :=
  ∀ ⦃s t x' t'⦄, thing x s t → thing x' s t' → Ends t → Ends t' → x' = x ∧ t' = t

/-- Things begin with a byte that is no white space, and not with the closing bracket. -/
def Begins (close : Char) (thing : α → Bytes → Bytes → Prop) : Prop :=
  ∀ ⦃x s t⦄, thing x s t → ∃ b r, s = b :: r ∧ isBlank b = false ∧ b ≠ ascii close

theorem not_blank_of_close (h : close = ']' ∨ close = '\x7d') :
    isBlank (ascii close) = false ∧ ascii close ≠ ascii ',' := by
  rcases h with rfl | rfl <;> decide

theorem Begins.same_place (hbegins : Begins close thing) {x x' : α} {s₁ s₂ r r' : Bytes}
    (hs : Blanks s s₁) (hx : thing x s₁ r) (hs' : Blanks s s₂) (hx' : thing x' s₂ r') :
    s₂ = s₁ := by
  obtain ⟨b, u, rfl, hb, -⟩ := hbegins hx
  obtain ⟨b', u', rfl, hb', -⟩ := hbegins hx'
  exact hs.unique hs' (by simpa using hb) (by simpa using hb')

theorem Further.unique (hclose : close = ']' ∨ close = '\x7d') (hbegins : Begins close thing)
    {xs xs' : List α} (hxs : ∀ x ∈ xs, Only thing x) (h : Further close thing xs s t)
    (h' : Further close thing xs' s t') : xs' = xs ∧ t' = t := by
  obtain ⟨hblank, hcomma⟩ := not_blank_of_close hclose
  have hnotBlank : isBlank (ascii ',') = false := by decide
  induction h generalizing xs' with
  | close hend =>
      cases h' with
      | close hend' => exact ⟨rfl, (hend.unique_cons hend' hblank hblank).2⟩
      | comma hnext => exact absurd (hend.unique_cons hnext hblank hnotBlank).1.symm hcomma
  | @comma x xs s s₁ s₂ s₃ t hnext hs hx hrest ih =>
      cases h' with
      | close hend => exact absurd (hnext.unique_cons hend hnotBlank hblank).1 hcomma
      | @comma x' xs' _ s₁' s₂' s₃' _ hnext' hs' hx' hrest' =>
          obtain rfl := (hnext.unique_cons hnext' hnotBlank hnotBlank).2
          obtain rfl := hbegins.same_place hs hx hs' hx'
          obtain ⟨rfl, rfl⟩ := hxs x (by simp) hx hx' (hrest.ends hclose) (hrest'.ends hclose)
          obtain ⟨rfl, rfl⟩ := ih (fun y hy => hxs y (by simp [hy])) hrest'
          exact ⟨rfl, rfl⟩

theorem Bracketed.unique (hclose : close = ']' ∨ close = '\x7d') (hbegins : Begins close thing)
    {xs xs' : List α} (hxs : ∀ x ∈ xs, Only thing x) (h : Bracketed close thing xs s t)
    (h' : Bracketed close thing xs' s t') : xs' = xs ∧ t' = t := by
  obtain ⟨hblank, -⟩ := not_blank_of_close hclose
  cases h with
  | empty hend =>
      cases h' with
      | empty hend' => exact ⟨rfl, (hend.unique_cons hend' hblank hblank).2⟩
      | first hs hx hrest =>
          obtain ⟨b, r, rfl, hb, hne⟩ := hbegins hx
          exact absurd (hend.unique_cons hs hblank hb).1 hne
  | @first x xs _ s₁ s₂ _ hs hx hrest =>
      cases h' with
      | empty hend =>
          obtain ⟨b, r, rfl, hb, hne⟩ := hbegins hx
          exact absurd (hend.unique_cons hs hblank hb).1 hne
      | first hs' hx' hrest' =>
          obtain rfl := hbegins.same_place hs hx hs' hx'
          obtain ⟨rfl, rfl⟩ := hxs x (by simp) hx hx' (hrest.ends hclose) (hrest'.ends hclose)
          obtain ⟨rfl, rfl⟩ := hrest.unique hclose hbegins (fun y hy => hxs y (by simp [hy])) hrest'
          exact ⟨rfl, rfl⟩

end

end ReviewDesk.Json
