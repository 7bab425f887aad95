/-
The grammar of everything that can be passed over.

A document that is read may hold parts nobody looks at, and of those only the form is
checked: a number in them may be too large to have a value, and a text may be made of
bytes and escapes that stand for no characters.  So there are documents without a value,
and what they are documents of is a tree: the value as far as there is one.  A number is
kept as it is written, and a text that stands for no characters is `none`.

Everything else about the writing is left out of the tree as it is of a value.  White
space and the way of escaping are not in it, so two documents of one tree differ in
nothing but layout.
-/
import ReviewDesk.Proofs.Json.Grammar

namespace ReviewDesk.Json

open Reader

/-- What a document is made of, before numbers and texts are asked for their values. -/
inductive Tree where
  | null
  | bool (b : Bool)
  /-- A number as it is written. -/
  | num (l : Literal)
  /-- A text, if it stands for characters. -/
  | text (x : Option String)
  | list (items : List Tree)
  | object (members : List (Option String × Tree))

/-- A key and what is behind it. -/
abbrev Tree.Member := Option String × Tree

/-! ### White space -/

section

variable {s r t : Bytes}

theorem Blanks.trans (h : Blanks s r) (h' : Blanks r t) : Blanks s t := by
  induction h with
  | none => exact h'
  | more hb _ ih => exact .more hb (ih h')

theorem blanks_dropWhile (s : Bytes) : Blanks s (s.dropWhile isBlank) := by
  induction s with
  | nil => exact .none
  | cons b s ih =>
      cases hb : isBlank b with
      | true =>
          rw [List.dropWhile_cons_of_pos hb]
          exact .more hb ih
      | false =>
          rw [List.dropWhile_cons_of_neg (by simp [hb])]
          exact .none

theorem blanks_nil_iff : Blanks s [] ↔ ∀ b ∈ s, isBlank b = true := by
  constructor
  · intro h
    generalize ht : [] = t at h
    induction h with
    | none =>
        subst ht
        exact fun b hb => nomatch hb
    | more hb _ ih => exact List.forall_mem_cons.mpr ⟨hb, ih ht⟩
  · intro h
    induction s with
    | nil => exact .none
    | cons b s ih =>
        obtain ⟨hb, hs⟩ := List.forall_mem_cons.mp h
        exact .more hb (ih hs)

end

/-! ### Texts of any kind -/

/-- What may stand up to and with a closing quotation mark. -/
inductive AnyText : Bytes → Bytes → Prop
  | close {t : Bytes} : AnyText (ascii '"' :: t) t
  | plain {b : UInt8} {s t : Bytes} (hquote : b ≠ ascii '"') (hslash : b ≠ ascii '\\')
      (hcontrol : ¬ b < 0x20) (h : AnyText s t) : AnyText (b :: s) t
  | short {b : UInt8} {s t : Bytes} (hb : (shortEscape? b).isSome = true) (h : AnyText s t) :
      AnyText (ascii '\\' :: b :: s) t
  | unit {n : Nat} {s s' t : Bytes} (hn : Hex n s s') (h : AnyText s' t) :
      AnyText (ascii '\\' :: ascii 'u' :: s) t

theorem Content.anyText {d s t : Bytes} (h : Content d s t) : AnyText s t := by
  induction h with
  | close => exact .close
  | plain hquote hslash hcontrol _ ih => exact .plain hquote hslash hcontrol ih
  | short hb _ ih => exact .short (by rw [hb]; rfl) ih
  | unit hn _ _ _ ih => exact .unit hn ih
  | halves hn hm _ _ _ ih => exact .unit hn (.unit hm ih)

/-- A text, from after its opening quotation mark; `none` is one that stands for no
characters. -/
def TextOf? : Option String → Bytes → Bytes → Prop
  | some x, s, t => TextOf x s t
  | none, s, t => AnyText s t ∧ ∀ x, ¬ TextOf x s t

theorem TextOf?.anyText {x : Option String} {s t : Bytes} (h : TextOf? x s t) : AnyText s t := by
  cases x with
  | none => exact h.1
  | some x => exact Content.anyText h

theorem AnyText.textOf? {s t : Bytes} (h : AnyText s t) : ∃ x, TextOf? x s t := by
  by_cases hx : ∃ x, TextOf x s t
  · obtain ⟨x, hx⟩ := hx
    exact ⟨some x, hx⟩
  · exact ⟨none, h, not_exists.mp hx⟩

/-! ### Trees -/

/-- A key, a colon and what is behind it. -/
inductive Entry (value : Tree → Bytes → Bytes → Prop) : Tree.Member → Bytes → Bytes → Prop
  | mk {k : Option String} {v : Tree} {s s₁ s₂ s₃ t : Bytes} (hkey : TextOf? k s s₁)
      (hcolon : Blanks s₁ (ascii ':' :: s₂)) (hs : Blanks s₂ s₃) (hv : value v s₃ t) :
      Entry value (k, v) (ascii '"' :: s) t

/-- The text of a tree. -/
inductive TreeOf : Tree → Bytes → Bytes → Prop
  | null {t : Bytes} : TreeOf .null (['n', 'u', 'l', 'l'].map ascii ++ t) t
  | bool {b : Bool} {t : Bytes} : TreeOf (.bool b) ((boolWord b).map ascii ++ t) t
  | num {l : Literal} {s t : Bytes} (h : LiteralOf l s t) : TreeOf (.num l) s t
  | text {x : Option String} {s t : Bytes} (h : TextOf? x s t) :
      TreeOf (.text x) (ascii '"' :: s) t
  | list {items : List Tree} {s t : Bytes} (h : Bracketed ']' TreeOf items s t) :
      TreeOf (.list items) (ascii '[' :: s) t
  | object {members : List Tree.Member} {s t : Bytes}
      (h : Bracketed '\x7d' (Entry TreeOf) members s t) :
      TreeOf (.object members) (ascii '\x7b' :: s) t

/-- A whole document: a tree with nothing but white space around it. -/
def TreeDocument (v : Tree) (bs : Bytes) : Prop :=
  ∃ s t, Blanks bs s ∧ TreeOf v s t ∧ Blanks t []

/-! ### How a tree begins -/

/-- A value that begins with the same bytes. -/
def Tree.outline : Tree → Json
  | .null => .null
  | .bool b => .bool b
  | .num _ => .num (.int 0)
  | .text _ => .text ""
  | .list _ => .list []
  | .object _ => .object []

theorem TreeOf.opens {v : Tree} {s t : Bytes} (h : TreeOf v s t) :
    ∃ b r, s = b :: r ∧ Json.opens v.outline b = true := by
  cases h with
  | null => exact ⟨_, _, rfl, rfl⟩
  | @bool b => cases b <;> exact ⟨_, _, rfl, rfl⟩
  | num hl => exact hl.opens
  | text => exact ⟨_, _, rfl, rfl⟩
  | list => exact ⟨_, _, rfl, rfl⟩
  | object => exact ⟨_, _, rfl, rfl⟩

/-! ### What follows plays no part -/

section

variable {s t : Bytes}

theorem Hex.split {n : Nat} (h : Hex n s t) : ∃ raw, s = raw ++ t ∧ ∀ u, Hex n (raw ++ u) u := by
  cases h with
  | @mk a b c d _ _ _ _ _ ha hb hc hd => exact ⟨[a, b, c, d], rfl, fun _ => .mk ha hb hc hd⟩

/-- The bytes of a text stand for the same before anything else. -/
theorem Content.split {d : Bytes} (h : Content d s t) :
    ∃ raw, s = raw ++ t ∧ ∀ u, Content d (raw ++ u) u := by
  induction h with
  | close => exact ⟨[ascii '"'], rfl, fun _ => .close⟩
  | @plain b _ _ _ hquote hslash hcontrol _ ih =>
      obtain ⟨raw, rfl, hraw⟩ := ih
      exact ⟨b :: raw, rfl, fun u => .plain hquote hslash hcontrol (hraw u)⟩
  | @short b _ _ _ _ hb _ ih =>
      obtain ⟨raw, rfl, hraw⟩ := ih
      exact ⟨ascii '\\' :: b :: raw, rfl, fun u => .short hb (hraw u)⟩
  | unit hn htrailing hleading _ ih =>
      obtain ⟨raw, rfl, hraw⟩ := ih
      obtain ⟨digits, rfl, hdigits⟩ := hn.split
      refine ⟨ascii '\\' :: ascii 'u' :: (digits ++ raw), by simp, fun u => ?_⟩
      have hn' : Hex _ (digits ++ (raw ++ u)) _ := hdigits (raw ++ u)
      simpa using Content.unit hn' htrailing hleading (hraw u)
  | halves hn hm hleading htrailing _ ih =>
      obtain ⟨raw, rfl, hraw⟩ := ih
      obtain ⟨second, rfl, hsecond⟩ := hm.split
      obtain ⟨first, rfl, hfirst⟩ := hn.split
      refine ⟨ascii '\\' :: ascii 'u' :: (first ++ ascii '\\' :: ascii 'u' :: (second ++ raw)),
        by simp, fun u => ?_⟩
      have hm' : Hex _ (second ++ (raw ++ u)) _ := hsecond (raw ++ u)
      have hn' := hfirst (ascii '\\' :: ascii 'u' :: (second ++ (raw ++ u)))
      simpa using Content.halves hn' hm' hleading htrailing (hraw u)

variable (u : Bytes)

theorem Blanks.append (h : Blanks s t) : Blanks (s ++ u) (t ++ u) := by
  induction h with
  | none => exact .none
  | more hb _ ih => exact .more hb ih

theorem Hex.append {n : Nat} (h : Hex n s t) : Hex n (s ++ u) (t ++ u) := by
  cases h with
  | mk ha hb hc hd => exact .mk ha hb hc hd

theorem AnyText.append (h : AnyText s t) : AnyText (s ++ u) (t ++ u) := by
  induction h with
  | close => exact .close
  | plain hquote hslash hcontrol _ ih => exact .plain hquote hslash hcontrol ih
  | short hb _ ih => exact .short hb ih
  | unit hn _ ih => exact .unit (hn.append u) ih

theorem TextOf?.append {x : Option String} (h : TextOf? x s t) : TextOf? x (s ++ u) (t ++ u) := by
  cases x with
  | some x =>
      obtain ⟨raw, rfl, hraw⟩ := Content.split h
      rw [List.append_assoc]
      exact hraw (t ++ u)
  | none =>
      refine ⟨h.1.append u, fun x hx => h.2 x ?_⟩
      obtain ⟨raw, hs, hraw⟩ := Content.split hx
      rw [← List.append_assoc] at hs
      rw [List.append_cancel_right hs]
      exact hraw t

/-- The bytes of a tree are bytes of the tree before anything else, as far as one can tell
where a number is over.  The induction goes through the parts between brackets as well. -/
theorem TreeOf.append {v : Tree} (h : TreeOf v s t) : TreeOf v (s ++ u) (t ++ u) := by
  refine @TreeOf.rec (fun v s t _ => TreeOf v (s ++ u) (t ++ u))
    (fun items s t _ => Bracketed ']' TreeOf items (s ++ u) (t ++ u))
    (fun ms s t _ => Bracketed '\x7d' (Entry TreeOf) ms (s ++ u) (t ++ u))
    (fun items s t _ => Further ']' TreeOf items (s ++ u) (t ++ u))
    (fun m s t _ => Entry TreeOf m (s ++ u) (t ++ u))
    (fun ms s t _ => Further '\x7d' (Entry TreeOf) ms (s ++ u) (t ++ u))
    ?null ?bool ?num ?text ?list ?object ?emptyList ?firstItem ?emptyObject ?firstEntry
    ?closeList ?furtherItem ?entry ?closeObject ?furtherEntry v s t h
  case null => exact .null
  case bool =>
    intro b t
    rw [List.append_assoc]
    exact .bool
  case num => exact fun hl => .num (hl.append u)
  case text => exact fun hx => .text (hx.append u)
  case list => exact fun _ ih => .list ih
  case object => exact fun _ ih => .object ih
  case emptyList => exact fun hclose => .empty (hclose.append u)
  case firstItem => exact fun hs _ _ ihx ih => .first (hs.append u) ihx ih
  case emptyObject => exact fun hclose => .empty (hclose.append u)
  case firstEntry => exact fun hs _ _ ihx ih => .first (hs.append u) ihx ih
  case closeList => exact fun hclose => .close (hclose.append u)
  case furtherItem => exact fun hcomma hs _ _ ihx ih => .comma (hcomma.append u) (hs.append u) ihx ih
  case entry =>
    exact fun hkey hcolon hs _ ihv => .mk (hkey.append u) (hcolon.append u) (hs.append u) ihv
  case closeObject => exact fun hclose => .close (hclose.append u)
  case furtherEntry => exact fun hcomma hs _ _ ihx ih => .comma (hcomma.append u) (hs.append u) ihx ih

end

end ReviewDesk.Json
