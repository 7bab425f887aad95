/-
The grammar of the format.

`Value v s t` says that the bytes `s` begin with a text of the value `v` and go on with
`t`; the other relations say the same of the parts of a value.  Nothing in them is said
about who reads or writes: white space may stand wherever the format allows it, a
character may be written in any of its escaped forms, and a number in any of the
literals that have its value.  A writer has to produce one such text, a reader has to
take every one.

A relation between what is given and what is left composes by naming what stands
between two parts, where a relation on exact texts would have to take sums apart.
-/
import ReviewDesk.Json.Basic
import ReviewDesk.Json.Number

namespace ReviewDesk.Json

open Reader

/-! ### White space -/

inductive Blanks : Bytes → Bytes → Prop
  | none {s : Bytes} : Blanks s s
  | more {b : UInt8} {s t : Bytes} (hb : isBlank b = true) (h : Blanks s t) : Blanks (b :: s) t

/-! ### Texts -/

/-- Four hexadecimal digits and what they come to. -/
inductive Hex : Nat → Bytes → Bytes → Prop
  | mk {a b c d : UInt8} {x y z w : Nat} {t : Bytes}
      (ha : hexDigit? a = some x) (hb : hexDigit? b = some y)
      (hc : hexDigit? c = some z) (hd : hexDigit? d = some w) :
      Hex (((x * 16 + y) * 16 + z) * 16 + w) (a :: b :: c :: d :: t) t

/-- What stands for the bytes `d`, up to and with the closing quotation mark. -/
inductive Content : Bytes → Bytes → Bytes → Prop
  | close {t : Bytes} : Content [] (ascii '"' :: t) t
  | plain {b : UInt8} {d s t : Bytes} (hquote : b ≠ ascii '"') (hslash : b ≠ ascii '\\')
      (hcontrol : ¬ b < 0x20) (h : Content d s t) : Content (b :: d) (b :: s) t
  | short {b c : UInt8} {d s t : Bytes} (hb : shortEscape? b = some c) (h : Content d s t) :
      Content (c :: d) (ascii '\\' :: b :: s) t
  | unit {n : Nat} {d s s' t : Bytes} (hn : Hex n s s') (htrailing : isTrailing n = false)
      (hleading : isLeading n = false) (h : Content d s' t) :
      Content (String.utf8EncodeChar (Char.ofNat n) ++ d) (ascii '\\' :: ascii 'u' :: s) t
  | halves {n m : Nat} {d s s' s'' t : Bytes} (hn : Hex n s (ascii '\\' :: ascii 'u' :: s'))
      (hm : Hex m s' s'') (hleading : isLeading n = true) (htrailing : isTrailing m = true)
      (h : Content d s'' t) :
      Content (String.utf8EncodeChar (joinHalves n m) ++ d) (ascii '\\' :: ascii 'u' :: s) t

/-- A text, from after its opening quotation mark. -/
def TextOf (x : String) (s t : Bytes) : Prop :=
  Content (Text.bytes x) s t

/-! ### Number literals -/

/-- One digit or more. -/
structure Digits (ds s t : Bytes) : Prop where
  some : ds ≠ []
  all : ∀ d ∈ ds, isDigit d = true
  split : s = ds ++ t

/-- A minus sign, or nothing. -/
inductive Sign : Bool → Bytes → Bytes → Prop
  | plus {s : Bytes} : Sign false s s
  | minus {s : Bytes} : Sign true (ascii '-' :: s) s

/-- The digits before the point: a zero in front stands alone. -/
structure Whole (ds s t : Bytes) : Prop extends Digits ds s t where
  zero : ds.head? = Option.some (ascii '0') → ds = [ascii '0']

/-- The digits behind a point, or nothing. -/
inductive Fraction : Bytes → Bytes → Bytes → Prop
  | none {s : Bytes} : Fraction [] s s
  | point {ds s t : Bytes} (h : Digits ds s t) : Fraction ds (ascii '.' :: s) t

/-- The sign of an exponent, if it has one. -/
inductive ExponentSign : Bool → Bytes → Bytes → Prop
  | none {s : Bytes} : ExponentSign false s s
  | plus {s : Bytes} : ExponentSign false (ascii '+' :: s) s
  | minus {s : Bytes} : ExponentSign true (ascii '-' :: s) s

inductive ExponentOf : Option Exponent → Bytes → Bytes → Prop
  | none {s : Bytes} : ExponentOf none s s
  | some {e : UInt8} {neg : Bool} {ds s s' t : Bytes} (he : e = ascii 'e' ∨ e = ascii 'E')
      (hsign : ExponentSign neg s s') (hds : Digits ds s' t) :
      ExponentOf (some ⟨neg, ds⟩) (e :: s) t

/-- The text of a number. -/
inductive LiteralOf : Literal → Bytes → Bytes → Prop
  | mk {neg : Bool} {whole fraction : Bytes} {exponent : Option Exponent} {s s₁ s₂ s₃ t : Bytes}
      (hsign : Sign neg s s₁) (hwhole : Whole whole s₁ s₂)
      (hfraction : Fraction fraction s₂ s₃) (hexponent : ExponentOf exponent s₃ t) :
      LiteralOf ⟨neg, whole, fraction, exponent⟩ s t

section

variable {s t : Bytes} (u : Bytes)

theorem Digits.append {ds : Bytes} (h : Digits ds s t) : Digits ds (s ++ u) (t ++ u) :=
  ⟨h.some, h.all, by rw [h.split, List.append_assoc]⟩

theorem Sign.append {neg : Bool} (h : Sign neg s t) : Sign neg (s ++ u) (t ++ u) := by
  cases h with
  | plus => exact .plus
  | minus => exact .minus

theorem Fraction.append {ds : Bytes} (h : Fraction ds s t) : Fraction ds (s ++ u) (t ++ u) := by
  cases h with
  | none => exact .none
  | point hds => exact .point (hds.append u)

theorem ExponentSign.append {neg : Bool} (h : ExponentSign neg s t) :
    ExponentSign neg (s ++ u) (t ++ u) := by
  cases h with
  | none => exact .none
  | plus => exact .plus
  | minus => exact .minus

theorem ExponentOf.append {e : Option Exponent} (h : ExponentOf e s t) :
    ExponentOf e (s ++ u) (t ++ u) := by
  cases h with
  | none => exact .none
  | some he hsign hds => exact .some he (hsign.append u) (hds.append u)

/-- A literal does not depend on what follows it. -/
theorem LiteralOf.append {l : Literal} (h : LiteralOf l s t) :
    LiteralOf l (s ++ u) (t ++ u) := by
  cases h with
  | mk hsign hwhole hfraction hexponent =>
    exact .mk (hsign.append u) ⟨hwhole.toDigits.append u, hwhole.zero⟩ (hfraction.append u)
      (hexponent.append u)

end

/-- A literal without point and exponent is made of digits and perhaps a sign. -/
theorem LiteralOf.mem_of_plain {l : Literal} {s : Bytes} (h : LiteralOf l s [])
    (hfraction : l.fraction = []) (hexponent : l.exponent = none) :
    ∀ b ∈ s, b = ascii '-' ∨ isDigit b = true := by
  cases h with
  | mk hsign hwhole hfrac hexp =>
    subst hfraction hexponent
    cases hexp
    cases hfrac with
    | point hds => exact absurd rfl hds.some
    | none =>
      obtain ⟨⟨-, hall, rfl⟩, -⟩ := hwhole
      rw [List.append_nil] at hsign
      intro b hb
      cases hsign with
      | plus => exact .inr (hall b hb)
      | minus => exact (List.mem_cons.mp hb).imp id (hall b)

/-! ### Brackets -/

/-- What stands after one of the things between brackets: the others, each after a
comma, and the closing bracket. -/
inductive Further {α : Type} (close : Char) (thing : α → Bytes → Bytes → Prop) :
    List α → Bytes → Bytes → Prop
  | close {s t : Bytes} (hclose : Blanks s (ascii close :: t)) : Further close thing [] s t
  | comma {x : α} {xs : List α} {s s₁ s₂ s₃ t : Bytes} (hcomma : Blanks s (ascii ',' :: s₁))
      (hs : Blanks s₁ s₂) (hx : thing x s₂ s₃) (h : Further close thing xs s₃ t) :
      Further close thing (x :: xs) s t

/-- What stands after an opening bracket. -/
inductive Bracketed {α : Type} (close : Char) (thing : α → Bytes → Bytes → Prop) :
    List α → Bytes → Bytes → Prop
  | empty {s t : Bytes} (hclose : Blanks s (ascii close :: t)) : Bracketed close thing [] s t
  | first {x : α} {xs : List α} {s s₁ s₂ t : Bytes} (hs : Blanks s s₁) (hx : thing x s₁ s₂)
      (h : Further close thing xs s₂ t) : Bracketed close thing (x :: xs) s t

/-- What stands between brackets stands behind a comma as well. -/
theorem Bracketed.further {α : Type} {close : Char} {thing : α → Bytes → Bytes → Prop}
    {r s t : Bytes} {x : α} {xs : List α} (h : Bracketed close thing (x :: xs) s t)
    (hcomma : Blanks r (ascii ',' :: s)) : Further close thing (x :: xs) r t := by
  cases h with
  | first hs hx h => exact .comma hcomma hs hx h

/-- A key, a colon and what stands for the value. -/
inductive Member {α : Type} (value : α → Bytes → Bytes → Prop) :
    String × α → Bytes → Bytes → Prop
  | mk {k : String} {v : α} {s s₁ s₂ s₃ t : Bytes} (hkey : TextOf k s s₁)
      (hcolon : Blanks s₁ (ascii ':' :: s₂)) (hs : Blanks s₂ s₃) (hv : value v s₃ t) :
      Member value (k, v) (ascii '"' :: s) t

/-! ### Values -/

/-- The two words for a truth value. -/
def boolWord : Bool → List Char
  | true => ['t', 'r', 'u', 'e']
  | false => ['f', 'a', 'l', 's', 'e']

/-- The text of a value. -/
inductive Value : Json → Bytes → Bytes → Prop
  | null {t : Bytes} : Value .null (['n', 'u', 'l', 'l'].map ascii ++ t) t
  | bool {b : Bool} {t : Bytes} : Value (.bool b) ((boolWord b).map ascii ++ t) t
  | num {l : Literal} {n : Number} {s t : Bytes} (hl : LiteralOf l s t) (hn : l.value = .ok n) :
      Value (.num n) s t
  | text {x : String} {s t : Bytes} (h : TextOf x s t) : Value (.text x) (ascii '"' :: s) t
  | list {items : List Json} {s t : Bytes} (h : Bracketed ']' Value items s t) :
      Value (.list items) (ascii '[' :: s) t
  | object {members : List (String × Json)} {s t : Bytes}
      (h : Bracketed '\x7d' (Member Value) members s t) :
      Value (.object members) (ascii '\x7b' :: s) t

/-- A whole document: a value with nothing but white space around it. -/
def Document (v : Json) (bs : Bytes) : Prop :=
  ∃ s t, Blanks bs s ∧ Value v s t ∧ Blanks t []

/-! ### How a value begins and what may follow it -/

/-- The bytes a value of each kind begins with. -/
def opens : Json → UInt8 → Bool
  | .null, b => b == ascii 'n'
  | .bool true, b => b == ascii 't'
  | .bool false, b => b == ascii 'f'
  | .num _, b => b == ascii '-' || isDigit b
  | .text _, b => b == ascii '"'
  | .list _, b => b == ascii '['
  | .object _, b => b == ascii '\x7b'

theorem LiteralOf.opens {l : Literal} {s t : Bytes} (h : LiteralOf l s t) :
    ∃ b r, s = b :: r ∧ (b == ascii '-' || isDigit b) = true := by
  cases h with
  | mk hsign hwhole hfraction hexponent =>
    cases hsign with
    | minus => exact ⟨_, _, rfl, rfl⟩
    | plus =>
      obtain ⟨⟨hne, hall, rfl⟩, -⟩ := hwhole
      obtain ⟨d, ds, rfl⟩ := List.exists_cons_of_ne_nil hne
      exact ⟨d, _, rfl, by simp [hall d (List.mem_cons_self ..)]⟩

theorem Value.opens {v : Json} {s t : Bytes} (h : Value v s t) :
    ∃ b r, s = b :: r ∧ Json.opens v b = true := by
  cases h with
  | null => exact ⟨_, _, rfl, rfl⟩
  | @bool b => cases b <;> exact ⟨_, _, rfl, rfl⟩
  | num hl => exact hl.opens
  | text => exact ⟨_, _, rfl, rfl⟩
  | list => exact ⟨_, _, rfl, rfl⟩
  | object => exact ⟨_, _, rfl, rfl⟩

/-- What follows a value, if anything does: white space, a comma or a closing bracket. -/
def Ends (t : Bytes) : Prop :=
  ∀ b ∈ t.head?, (isBlank b || b == ascii ',' || b == ascii ']' || b == ascii '\x7d') = true

theorem ends_cons {b : UInt8} {t : Bytes}
    (h : (isBlank b || b == ascii ',' || b == ascii ']' || b == ascii '\x7d') = true) :
    Ends (b :: t) := by
  rintro c ⟨⟩
  exact h

theorem Blanks.ends {s t : Bytes} (h : Blanks s t) (ht : Ends t) : Ends s := by
  cases h with
  | none => exact ht
  | more hb _ => exact ends_cons (by simp [hb])

theorem Further.ends {α : Type} {close : Char} {thing : α → Bytes → Bytes → Prop} {xs : List α}
    {s t : Bytes} (h : Further close thing xs s t) (hclose : close = ']' ∨ close = '\x7d') :
    Ends s := by
  cases h with
  | close h =>
      rcases hclose with rfl | rfl <;> exact h.ends (ends_cons (by decide))
  | comma hcomma _ _ _ => exact hcomma.ends (ends_cons (by decide))

end ReviewDesk.Json
