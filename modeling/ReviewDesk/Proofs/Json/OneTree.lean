/-
A text is of one tree only, and of one value.

The grammar says of which trees a row of bytes is a text, and never of two: one byte tells
the kind, and between brackets one byte tells whether there is more.  Numbers are compared
as they are written, and a text that stands for no characters is still told from one that
does.

A tree has at most one value, and a text of a value is a text of a tree that has it
(`Value.exists_tree`).  So what holds of trees holds of values, although not every document
has a value.
-/
import ReviewDesk.Proofs.Json.AnyTexts
import ReviewDesk.Proofs.Json.Unambiguous

namespace ReviewDesk.Json

variable {s t t' : Bytes}

theorem TextOf?.unique {x x' : Option String} (h : TextOf? x s t) (h' : TextOf? x' s t') :
    x' = x ∧ t' = t := by
  obtain rfl := Reader.anyText_unique h'.anyText h.anyText
  refine ⟨?_, rfl⟩
  cases x with
  | none =>
      cases x' with
      | none => rfl
      | some y' => exact absurd h' (h.2 y')
  | some y =>
      cases x' with
      | none => exact absurd h (h'.2 y)
      | some y' => exact congrArg some (TextOf.unique h h').1

theorem Tree.outline_of_opens {v : Tree} {b : UInt8} (h : opens v.outline b = true) :
    v.outline = openedBy b := by
  rw [← Json.outline_of_opens h]
  cases v <;> rfl

/-- Trees with one text are of one kind. -/
theorem TreeOf.outline_eq {v v' : Tree} (h : TreeOf v s t) (h' : TreeOf v' s t') :
    v'.outline = v.outline := by
  obtain ⟨b, r, rfl, hb⟩ := h.opens
  obtain ⟨b', r', heq, hb'⟩ := h'.opens
  cases heq
  rw [Tree.outline_of_opens hb, Tree.outline_of_opens hb']

theorem begins_tree : Begins ']' TreeOf := by
  intro v s t h
  obtain ⟨b, r, rfl, hb⟩ := h.opens
  exact ⟨b, r, rfl, not_blank_of_opens hb⟩

theorem begins_entry : Begins '\x7d' (Entry TreeOf) := by
  intro m s t h
  cases h with
  | mk => exact ⟨_, _, rfl, by decide, by decide⟩

theorem only_entry {m : Tree.Member} (h : Only TreeOf m.2) : Only (Entry TreeOf) m := by
  intro s t m' t' hm hm' ht ht'
  have hcolon : isBlank (ascii ':') = false := by decide
  cases hm with
  | mk hkey hc hs hv =>
      cases hm' with
      | mk hkey' hc' hs' hv' =>
          obtain ⟨rfl, rfl⟩ := hkey.unique hkey'
          obtain rfl := (hc.unique_cons hc' hcolon hcolon).2
          obtain rfl := begins_tree.same_place hs hv hs' hv'
          obtain ⟨rfl, rfl⟩ := h hv hv' ht ht'
          exact ⟨rfl, rfl⟩

/-- No text is of two trees.  Lists and objects go by their parts. -/
theorem only_tree (v : Tree) : Only TreeOf v := by
  intro s t v' t' h h' ht ht'
  have houtline := h.outline_eq h'
  match v with
  | .null =>
      cases v' with
      | null =>
          cases h
          -- `cases` needs a variable where the text stands.
          generalize hs : ['n', 'u', 'l', 'l'].map ascii ++ t = s at h'
          cases h'
          exact ⟨rfl, (List.append_cancel_left hs).symm⟩
      | _ => cases houtline
  | .bool b =>
      cases v' with
      | bool b' =>
          obtain rfl : b' = b := by simpa [Tree.outline] using houtline
          cases h
          generalize hs : (boolWord b').map ascii ++ t = s at h'
          cases h'
          exact ⟨rfl, (List.append_cancel_left hs).symm⟩
      | _ => cases houtline
  | .num l =>
      cases v' with
      | num l' =>
          cases h with
          | num hl =>
              cases h' with
              | num hl' =>
                  obtain ⟨rfl, rfl⟩ := hl.unique hl' ht ht'
                  exact ⟨rfl, rfl⟩
      | _ => cases houtline
  | .text x =>
      cases v' with
      | text x' =>
          cases h with
          | text hx =>
              cases h' with
              | text hx' =>
                  obtain ⟨rfl, rfl⟩ := hx.unique hx'
                  exact ⟨rfl, rfl⟩
      | _ => cases houtline
  | .list items =>
      cases v' with
      | list items' =>
          cases h with
          | list hitems =>
              cases h' with
              | list hitems' =>
                  obtain ⟨rfl, rfl⟩ := hitems.unique (Or.inl rfl) begins_tree
                    (fun w hw => only_tree w) hitems'
                  exact ⟨rfl, rfl⟩
      | _ => cases houtline
  | .object members =>
      cases v' with
      | object members' =>
          cases h with
          | object hmembers =>
              cases h' with
              | object hmembers' =>
                  obtain ⟨rfl, rfl⟩ := hmembers.unique (Or.inr rfl) begins_entry
                    (fun m hm => only_entry (only_tree m.2)) hmembers'
                  exact ⟨rfl, rfl⟩
      | _ => cases houtline
termination_by sizeOf v
decreasing_by
  · have hlt := List.sizeOf_lt_of_mem hw
    simp
    omega
  · have hlt := List.sizeOf_lt_of_mem hm
    cases m
    simp at hlt ⊢
    omega

/-- A document is of one tree only. -/
theorem TreeDocument.unique {v v' : Tree} {bs : Bytes} (h : TreeDocument v bs)
    (h' : TreeDocument v' bs) : v' = v := by
  obtain ⟨s, t, hs, hv, ht⟩ := h
  obtain ⟨s', t', hs', hv', ht'⟩ := h'
  have hnil : Ends [] := nofun
  obtain rfl := begins_tree.same_place hs hv hs' hv'
  exact (only_tree v hv hv' (ht.ends hnil) (ht'.ends hnil)).1

theorem TreeDocument.eq_iff {v v' : Tree} {bs : Bytes} (h : TreeDocument v bs) :
    TreeDocument v' bs ↔ v' = v := by
  refine ⟨h.unique, ?_⟩
  rintro rfl
  exact h

/-! ### The value of a tree -/

mutual

/-- The value of a tree, if all its numbers and texts have one. -/
def Tree.value? : Tree → Option Json
  | .null => some .null
  | .bool b => some (.bool b)
  | .num l => l.value.toOption.map .num
  | .text x => x.map .text
  | .list items => (values? items).map .list
  | .object members => (entries? members).map .object

def Tree.values? : List Tree → Option (List Json)
  | [] => some []
  | v :: vs => do
    let w ← v.value?
    let ws ← values? vs
    some (w :: ws)

def Tree.entry? : Tree.Member → Option (String × Json)
  | (k, v) => do
    let x ← k
    let w ← v.value?
    some (x, w)

def Tree.entries? : List Tree.Member → Option (List (String × Json))
  | [] => some []
  | m :: ms => do
    let n ← entry? m
    let ns ← entries? ms
    some (n :: ns)

end

section

variable {α β : Type} {thing : α → Bytes → Bytes → Prop} {thing' : β → Bytes → Bytes → Prop}
  {r : β → α → Prop} {close : Char} {xs : List α}

theorem Further.transfer (hxs : ∀ x ∈ xs, ∀ ⦃s t⦄, thing x s t → ∃ y, thing' y s t ∧ r y x)
    (h : Further close thing xs s t) :
    ∃ ys, Further close thing' ys s t ∧ List.Forall₂ r ys xs := by
  induction h with
  | close hclose => exact ⟨[], .close hclose, .nil⟩
  | comma hcomma hs hx _ ih =>
      obtain ⟨hx', hxs'⟩ := List.forall_mem_cons.mp hxs
      obtain ⟨y, hy, hr⟩ := hx' hx
      obtain ⟨ys, hys, hrs⟩ := ih hxs'
      exact ⟨y :: ys, .comma hcomma hs hy hys, .cons hr hrs⟩

/-- If texts of things are texts of things related to them, then this is so between
brackets. -/
theorem Bracketed.transfer (hxs : ∀ x ∈ xs, ∀ ⦃s t⦄, thing x s t → ∃ y, thing' y s t ∧ r y x)
    (h : Bracketed close thing xs s t) :
    ∃ ys, Bracketed close thing' ys s t ∧ List.Forall₂ r ys xs := by
  cases h with
  | empty hclose => exact ⟨[], .empty hclose, .nil⟩
  | first hs hx h =>
      obtain ⟨hx', hxs'⟩ := List.forall_mem_cons.mp hxs
      obtain ⟨y, hy, hr⟩ := hx' hx
      obtain ⟨ys, hys, hrs⟩ := h.transfer hxs'
      exact ⟨y :: ys, .first hs hy hys, .cons hr hrs⟩

end

theorem Tree.values?_of_forall₂ {vs : List Tree} {ws : List Json}
    (h : List.Forall₂ (fun v w => value? v = some w) vs ws) : values? vs = some ws := by
  induction h with
  | nil => rfl
  | cons hv _ ih => simp [values?, hv, ih]

theorem Tree.entries?_of_forall₂ {ms : List Tree.Member} {ns : List (String × Json)}
    (h : List.Forall₂ (fun m n => entry? m = some n) ms ns) : entries? ms = some ns := by
  induction h with
  | nil => rfl
  | cons hm _ ih => simp [entries?, hm, ih]

/-- A text of a value is a text of a tree that has the value. -/
theorem Value.exists_tree (w : Json) {s t : Bytes} (h : Value w s t) :
    ∃ v, TreeOf v s t ∧ v.value? = some w := by
  match w with
  | .null =>
      cases h
      exact ⟨.null, .null, rfl⟩
  | .bool b =>
      cases h
      exact ⟨.bool b, .bool, rfl⟩
  | .num n =>
      cases h with
      | @num l _ _ _ hl hn => exact ⟨.num l, .num hl, by simp [Tree.value?, hn, Except.toOption]⟩
  | .text x =>
      cases h with
      | text hx => exact ⟨.text (some x), .text hx, rfl⟩
  | .list items =>
      cases h with
      | list hitems =>
          obtain ⟨vs, hvs, hvalues⟩ := hitems.transfer
            (r := fun (v : Tree) (w : Json) => v.value? = some w) fun w hw _ _ h => exists_tree w h
          exact ⟨.list vs, .list hvs, by simp [Tree.value?, Tree.values?_of_forall₂ hvalues]⟩
  | .object members =>
      cases h with
      | object hmembers =>
          have hmember : ∀ n ∈ members, ∀ ⦃s t⦄, Member Value n s t →
              ∃ m, Entry TreeOf m s t ∧ Tree.entry? m = some n := by
            intro n hn s t h
            cases h with
            | @mk k w _ _ _ _ _ hkey hcolon hs hv =>
                obtain ⟨v, htree, hvalue⟩ := exists_tree w hv
                exact ⟨(some k, v), .mk hkey hcolon hs htree, by simp [Tree.entry?, hvalue]⟩
          obtain ⟨ms, hms, hentries⟩ := hmembers.transfer hmember
          exact ⟨.object ms, .object hms, by simp [Tree.value?, Tree.entries?_of_forall₂ hentries]⟩
termination_by sizeOf w
decreasing_by
  · have hlt := List.sizeOf_lt_of_mem hw
    simp
    omega
  · have hlt := List.sizeOf_lt_of_mem hn
    simp at hlt ⊢
    omega

/-- A document is of one value only. -/
theorem Document.unique {w w' : Json} {bs : Bytes} (h : Document w bs) (h' : Document w' bs) :
    w' = w := by
  obtain ⟨s, t, hs, hw, ht⟩ := h
  obtain ⟨s', t', hs', hw', ht'⟩ := h'
  obtain ⟨v, hv, hvalue⟩ := hw.exists_tree
  obtain ⟨v', hv', hvalue'⟩ := hw'.exists_tree
  obtain rfl : v' = v := TreeDocument.unique ⟨s, t, hs, hv, ht⟩ ⟨s', t', hs', hv', ht'⟩
  exact Option.some.inj (hvalue'.symm.trans hvalue)

end ReviewDesk.Json
