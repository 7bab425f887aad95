/-
Values in order and values by key.

A record that is a list gives its values the keys of the fields in their order; `named` does
so in the open.  Both come to the same row as long as no value is left over and the fields
left without one fall back on the same in a list and in an object, which is all that the two
could differ in (`Row.ofMembers_named`).

The texts of values make the text of a list, and with keys the text of an object: what stands
between two commas may have white space on both sides, so documents do (`Stands`).
-/
import ReviewDesk.Proofs.Json.Escapes
import ReviewDesk.Proofs.Json.Layout

namespace ReviewDesk.Json

/-- The members that give these keys these values, as far as there are both. -/
def named (keys : List String) (vs : List Tree) : List Tree.Member :=
  (keys.map some).zip vs

/-! ### Rows -/

variable {f : Field} {fs : List Field} {keys : List String} {vs : List Tree}

@[simp] theorem named_nil (keys : List String) : named keys [] = [] :=
  List.zip_nil_right

@[simp] theorem named_cons (k : String) (v : Tree) :
    named (k :: keys) (v :: vs) = (some k, v) :: named keys vs := rfl

theorem valuesAt_named_of_not_mem {k : String} (hk : k ∉ keys) :
    valuesAt k (named keys vs) = [] := by
  refine List.eq_nil_iff_forall_not_mem.mpr fun v hv => ?_
  obtain ⟨k', hk', heq⟩ := List.mem_map.mp (List.of_mem_zip (mem_valuesAt.mp hv)).1
  cases heq
  exact hk hk'

/-- A member with a key of its own is passed over by all other fields. -/
theorem Row.ofMembers_cons_of_not_mem (gs : Meanings fs) {k : String} {v : Tree}
    {ms : List Tree.Member} (hk : k ∉ fs.map Field.key) :
    Row.ofMembers fs gs ((some k, v) :: ms) = Row.ofMembers fs gs ms := by
  have hrearranged : Rearranged (fs.map Field.key) ms ((some k, v) :: ms) :=
    ⟨[(some k, v)], List.forall_mem_singleton.mpr ⟨k, rfl, hk⟩, .refl _⟩
  exact Row.ofMembers_rearranged gs hrearranged fun _ => List.mem_map_of_mem

/-- Values come to the same by their keys and in their order. -/
theorem Row.ofMembers_named (gs : Meanings fs) (hfs : (fs.map Field.key).Nodup)
    (habsent : ∀ f ∈ fs, f.absent = f.omitted) (hvs : vs.length ≤ fs.length) :
    Row.ofMembers fs gs (named (fs.map Field.key) vs) = Row.ofItems fs gs vs := by
  induction fs generalizing vs with
  | nil =>
      obtain rfl : vs = [] := List.length_eq_zero_iff.mp (Nat.le_zero.mp hvs)
      rfl
  | cons f fs ih =>
      obtain ⟨g, gs⟩ := gs
      obtain ⟨hf, hfs⟩ := List.nodup_cons.mp hfs
      obtain ⟨hfirst, hrest⟩ := List.forall_mem_cons.mp habsent
      cases vs with
      | nil =>
          have hnil : Row.ofMembers fs gs (named (fs.map Field.key) []) = Row.ofItems fs gs [] :=
            ih gs hfs hrest (Nat.zero_le _)
          rw [named_nil] at hnil ⊢
          rw [Row.ofMembers, Row.ofItems, hnil, ← hfirst]
          rfl
      | cons v vs =>
          have hvalues : valuesAt f.key ((some f.key, v) :: named (fs.map Field.key) vs) = [v] := by
            rw [valuesAt_cons_self, valuesAt_named_of_not_mem hf]
          rw [List.map_cons, named_cons, Row.ofMembers, Row.ofItems, hvalues,
            Row.ofMembers_cons_of_not_mem gs hf, ih gs hfs hrest (Nat.le_of_succ_le_succ hvs)]
          rfl

/-- More values than fields are no row. -/
theorem Row.ofItems_of_length_lt (gs : Meanings fs) (hvs : fs.length < vs.length) :
    Row.ofItems fs gs vs = none := by
  induction fs generalizing vs with
  | nil =>
      obtain ⟨v, vs, rfl⟩ := List.exists_cons_of_length_pos hvs
      rfl
  | cons f fs ih =>
      obtain ⟨g, gs⟩ := gs
      obtain ⟨v, vs, rfl⟩ := List.exists_cons_of_length_pos (Nat.zero_lt_of_lt hvs)
      rw [Row.ofItems, ih gs (Nat.lt_of_succ_lt_succ hvs)]
      cases g.of v <;> rfl

/-! ### Texts -/

/-- These bytes are a text of the thing wherever they stand, with white space around it. -/
def Stands {α : Type} (thing : α → Bytes → Bytes → Prop) (x : α) (bs : Bytes) : Prop :=
  ∀ t, ∃ s u, Blanks (bs ++ t) s ∧ thing x s u ∧ Blanks u t

/-- Texts with commas between them, up to the closing bracket. -/
def separated (close : Char) : List Bytes → Bytes
  | [] => [ascii close]
  | [bs] => bs ++ [ascii close]
  | bs :: rest => bs ++ ascii ',' :: separated close rest

/-- The text of a list of these texts. -/
def listText (xs : List Bytes) : Bytes :=
  ascii '[' :: separated ']' xs

/-- The text of a member. -/
def keyed (k : String) (bs : Bytes) : Bytes :=
  ascii '"' :: (Text.bytes k ++ ascii '"' :: ascii ':' :: bs)

/-- The text of an object with these keys and texts. -/
def objectText (keys : List String) (xs : List Bytes) : Bytes :=
  ascii '\x7b' :: separated '\x7d' (List.zipWith keyed keys xs)

section

variable {α : Type} {thing : α → Bytes → Bytes → Prop} {close : Char} {xs : List α}
  {texts : List Bytes}

theorem bracketed_separated (h : List.Forall₂ (Stands thing) xs texts) (t : Bytes) :
    Bracketed close thing xs (separated close texts ++ t) t := by
  induction h with
  | nil => exact .empty .none
  | @cons x bs xs texts hx hrest ih =>
      cases hrest with
      | nil =>
          obtain ⟨s, u, hs, hthing, hu⟩ := hx (ascii close :: t)
          refine .first ?_ hthing (.close hu)
          simpa [separated] using hs
      | cons hy hrest =>
          obtain ⟨s, u, hs, hthing, hu⟩ := hx (ascii ',' :: (separated close (_ :: _) ++ t))
          refine .first ?_ hthing (ih.further hu)
          simpa [separated] using hs

end

theorem stands_tree {v : Tree} {bs : Bytes} (h : TreeDocument v bs) : Stands TreeOf v bs := by
  obtain ⟨s, u, hs, hv, hu⟩ := h
  exact fun t => ⟨s ++ t, u ++ t, hs.append t, hv.append t, hu.append t⟩

theorem stands_keyed {k : String} {v : Tree} {bs : Bytes} (hk : ∀ b ∈ Text.bytes k, Plain b)
    (h : TreeDocument v bs) : Stands (Entry TreeOf) (some k, v) (keyed k bs) := by
  intro t
  obtain ⟨s, u, hs, hv, hu⟩ := stands_tree h t
  have hkey : TextOf? (some k) (Text.bytes k ++ ascii '"' :: ascii ':' :: (bs ++ t))
      (ascii ':' :: (bs ++ t)) := by
    have hcontent := Content.plain_append (.close (t := ascii ':' :: (bs ++ t))) hk
    rwa [List.append_nil] at hcontent
  refine ⟨_, u, .none, ?_, hu⟩
  simpa [keyed] using Entry.mk hkey .none hs hv

theorem stands_named {xs : List Bytes} (hkeys : ∀ k ∈ keys, ∀ b ∈ Text.bytes k, Plain b)
    (h : List.Forall₂ TreeDocument vs xs) :
    List.Forall₂ (Stands (Entry TreeOf)) (named keys vs) (List.zipWith keyed keys xs) := by
  induction h generalizing keys with
  | nil =>
      rw [named_nil, List.zipWith_nil_right]
      exact .nil
  | cons hv _ ih =>
      cases keys with
      | nil => exact .nil
      | cons k keys =>
          obtain ⟨hk, hkeys⟩ := List.forall_mem_cons.mp hkeys
          exact .cons (stands_keyed hk hv) (ih hkeys)

/-- The texts of values make the text of the list of the values. -/
theorem treeDocument_listText {xs : List Bytes} (h : List.Forall₂ TreeDocument vs xs) :
    TreeDocument (.list vs) (listText xs) := by
  have hitems : Bracketed ']' TreeOf vs (separated ']' xs ++ []) [] :=
    bracketed_separated (h.imp fun _ _ => stands_tree) []
  rw [List.append_nil] at hitems
  exact ⟨_, [], .none, .list hitems, .none⟩

/-- With keys they make the text of the object that gives the keys these values. -/
theorem treeDocument_objectText {xs : List Bytes}
    (hkeys : ∀ k ∈ keys, ∀ b ∈ Text.bytes k, Plain b) (h : List.Forall₂ TreeDocument vs xs) :
    TreeDocument (.object (named keys vs)) (objectText keys xs) := by
  have hmembers : Bracketed '\x7d' (Entry TreeOf) (named keys vs)
      (separated '\x7d' (List.zipWith keyed keys xs) ++ []) [] :=
    bracketed_separated (stands_named hkeys h) []
  rw [List.append_nil] at hmembers
  exact ⟨_, [], .none, .object hmembers, .none⟩

end ReviewDesk.Json
