/-
What is written for a value tells the value.

Whatever the value, its text is a document of one tree, `Json.tree`: the value with its
numbers as they are printed.  Nothing is asked of the numbers except that they are printed
as numbers, and in particular not that they read back.  Trees tell values as far as the
printed numbers tell numbers, so two values have one text only if they differ in nothing but
numbers that look the same.
-/
import Mathlib.Data.List.Nodup
import ReviewDesk.Proofs.Json.OneTree
import ReviewDesk.Proofs.Json.Printed
import ReviewDesk.Proofs.Json.Written

namespace ReviewDesk.Json

open Text

theorem sizeOf_value_lt {ms : List (String × Json)} {m : String × Json} (h : m ∈ ms) :
    sizeOf m.2 < sizeOf (Json.object ms) := by
  have hlt := List.sizeOf_lt_of_mem h
  cases m
  simp at hlt ⊢
  omega

/-- The tree of the texts that are written for a value. -/
def tree : Json → Tree
  | .null => .null
  | .bool b => .bool b
  | .num n => .num n.literal
  | .text s => .text (some s)
  | .list items => .list (items.map tree)
  | .object ms => .object (ms.map fun m => (some m.1, tree m.2))
decreasing_by
  · decreasing_tactic
  · exact sizeOf_value_lt ‹_›

/-- The numbers in a value. -/
def numbers : Json → List Number
  | .num n => [n]
  | .list items => items.flatMap numbers
  | .object ms => ms.flatMap fun m => numbers m.2
  | _ => []
decreasing_by
  · decreasing_tactic
  · exact sizeOf_value_lt ‹_›

/-- All numbers in a value are printed as numbers. -/
def IsPrinted (v : Json) : Prop :=
  ∀ n ∈ v.numbers, n.IsPrinted

theorem isPrinted_list {items : List Json} :
    (Json.list items).IsPrinted ↔ ∀ v ∈ items, v.IsPrinted := by
  simp only [IsPrinted, numbers, List.mem_flatMap, forall_exists_index, and_imp]
  exact ⟨fun h v hv n hn => h n v hv hn, fun h n v hv hn => h v hv n hn⟩

theorem isPrinted_object {ms : List (String × Json)} :
    (Json.object ms).IsPrinted ↔ ∀ m ∈ ms, m.2.IsPrinted := by
  simp only [IsPrinted, numbers, List.mem_flatMap, forall_exists_index, and_imp]
  exact ⟨fun h m hm n hn => h n m hm hn, fun h n m hm hn => h m hm n hn⟩

/-! ### The tree of a text -/

section

variable {α β : Type} {thing : β → Bytes → Bytes → Prop} {f : α → β} {close : Char} {xs : List α}
  {s t : Bytes}

theorem Further.map (h : Further close (fun x => thing (f x)) xs s t) :
    Further close thing (xs.map f) s t := by
  induction h with
  | close hclose => exact .close hclose
  | comma hcomma hs hx _ ih => exact .comma hcomma hs hx ih

/-- Things between brackets may be taken for what they stand for. -/
theorem Bracketed.map (h : Bracketed close (fun x => thing (f x)) xs s t) :
    Bracketed close thing (xs.map f) s t := by
  cases h with
  | empty hclose => exact .empty hclose
  | first hs hx h => exact .first hs hx h.map

end

theorem treeOf_boolChars (b : Bool) (t : Bytes) :
    TreeOf (.bool b) (encode (boolChars b) ++ t) t := by
  have hword : encode (boolChars b) = (boolWord b).map ascii := by
    cases b <;> decide
  rw [hword]
  exact .bool

theorem treeOf_number {n : Number} (h : n.IsPrinted) (t : Bytes) :
    TreeOf (.num n.literal) (encode n.chars ++ t) t := by
  obtain ⟨hproper, hwritten⟩ := Number.written_literal h
  rw [hwritten]
  exact .num (hproper.literalOf t)

theorem treeOf_textChars (x : String) (t : Bytes) :
    TreeOf (.text (some x)) (encode (textChars x) ++ t) t := by
  rw [encode_textChars]
  exact .text (textOf_escaped x t)

theorem entry_memberChars {space : List Char} {write : Json → List Char} {m : String × Json}
    (hspace : Space space) (h : ∀ t, TreeOf m.2.tree (encode (write m.2) ++ t) t) (t : Bytes) :
    Entry TreeOf (some m.1, m.2.tree) (encode (memberChars space write m) ++ t) t := by
  rw [memberChars, encode_append, List.append_assoc, encode_textChars,
    encode_ascii_cons _ (by decide), encode_append, List.cons_append, List.append_assoc]
  have hkey : ∀ t, TextOf? (some m.1) (encode (m.1.toList.flatMap escapedChar) ++ ascii '"' :: t) t :=
    textOf_escaped m.1
  exact .mk (hkey _) .none (hspace _) (h t)

theorem treeOf_compactChars {v : Json} (h : v.IsPrinted) (t : Bytes) :
    TreeOf v.tree (encode (compactChars v) ++ t) t := by
  fun_induction tree v generalizing t with
  | case1 => exact .null
  | case2 b => exact treeOf_boolChars b t
  | case3 n => exact treeOf_number (h n (by simp [numbers])) t
  | case4 x => exact treeOf_textChars x t
  | case5 items ih =>
      rw [compactChars, compactItems_eq, encode_ascii_cons _ (by decide)]
      refine .list (Bracketed.map ?_)
      exact bracketed_laidOut space_nil space_nil (by decide)
        (fun v hv => ih v hv (isPrinted_list.mp h v hv)) t
  | case6 ms ih =>
      rw [compactChars, compactMembers_eq, encode_ascii_cons _ (by decide)]
      refine .object (Bracketed.map ?_)
      refine bracketed_laidOut space_nil space_nil (by decide) (fun m hm => ?_) t
      exact entry_memberChars space_nil (ih m hm (isPrinted_object.mp h m hm))

theorem treeOf_spreadChars {v : Json} (h : v.IsPrinted) (depth : Nat) (t : Bytes) :
    TreeOf v.tree (encode (spreadChars depth v) ++ t) t := by
  fun_induction tree v generalizing depth t with
  | case1 => exact .null
  | case2 b => exact treeOf_boolChars b t
  | case3 n => exact treeOf_number (h n (by simp [numbers])) t
  | case4 x => exact treeOf_textChars x t
  | case5 items ih =>
      -- Without elements there are no lines between the brackets either.
      cases items with
      | nil => exact .list (.empty .none)
      | cons v vs =>
          rw [spreadChars, spreadItems_eq, encode_ascii_cons _ (by decide)]
          · refine .list (Bracketed.map ?_)
            exact bracketed_laidOut (space_newLine _) (space_newLine _) (by decide)
              (fun w hw => ih w hw (isPrinted_list.mp h w hw) (depth + 1)) t
          · simp
  | case6 ms ih =>
      cases ms with
      | nil => exact .object (.empty .none)
      | cons m ms =>
          rw [spreadChars, spreadMembers_eq, encode_ascii_cons _ (by decide)]
          · refine .object (Bracketed.map ?_)
            refine bracketed_laidOut (space_newLine _) (space_newLine _) (by decide) (fun m hm => ?_) t
            have hspace : Space [' '] := fun _ => .more (by decide) .none
            exact entry_memberChars hspace (ih m hm (isPrinted_object.mp h m hm) (depth + 1))
          · simp

theorem treeDocument_compact {v : Json} (h : v.IsPrinted) :
    TreeDocument v.tree (bytes v.compact) := by
  have htree := treeOf_compactChars h []
  rw [List.append_nil, ← bytes_ofList] at htree
  exact ⟨_, [], .none, htree, .none⟩

theorem treeDocument_spread {v : Json} (h : v.IsPrinted) :
    TreeDocument v.tree (bytes v.spread) := by
  have htree := treeOf_spreadChars h 0 []
  rw [List.append_nil, ← bytes_ofList] at htree
  exact ⟨_, [], .none, htree, .none⟩

/-! ### The value of a tree -/

/-- Elements may be told by what is made of them if those at hand may. -/
theorem eq_of_map_eq {α β : Type} {f : α → β} {xs ys : List α}
    (h : ∀ x ∈ xs, ∀ y ∈ ys, f x = f y → x = y) (heq : xs.map f = ys.map f) : xs = ys := by
  induction xs generalizing ys with
  | nil => simpa using heq.symm
  | cons x xs ih =>
      cases ys with
      | nil => simp at heq
      | cons y ys =>
          obtain ⟨hhead, htail⟩ := List.cons.inj heq
          rw [h x (by simp) y (by simp) hhead,
            ih (fun a ha b hb => h a (by simp [ha]) b (by simp [hb])) htail]

/-- Values with one tree are equal if no number in one has the literal of another number in
the other. -/
theorem eq_of_tree_eq {v v' : Json}
    (h : ∀ n ∈ v.numbers, ∀ n' ∈ v'.numbers, n.literal = n'.literal → n = n')
    (heq : v.tree = v'.tree) : v = v' := by
  fun_induction tree v generalizing v' with
  | case1 => cases v' <;> simp_all [tree]
  | case2 b => cases v' <;> simp_all [tree]
  | case3 n =>
      cases v' with
      | num n' =>
          simp only [tree, Tree.num.injEq] at heq
          rw [h n (by simp [numbers]) n' (by simp [numbers]) heq]
      | _ => simp [tree] at heq
  | case4 x => cases v' <;> simp_all [tree]
  | case5 items ih =>
      cases v' with
      | list items' =>
          simp only [tree, Tree.list.injEq] at heq
          simp only [numbers, List.mem_flatMap, forall_exists_index, and_imp] at h
          congr 1
          refine eq_of_map_eq (fun w hw w' hw' hww' => ih w hw ?_ hww') heq
          exact fun n hn n' hn' => h n w hw hn n' w' hw' hn'
      | _ => simp [tree] at heq
  | case6 ms ih =>
      cases v' with
      | object ms' =>
          simp only [tree, Tree.object.injEq] at heq
          simp only [numbers, List.mem_flatMap, forall_exists_index, and_imp] at h
          congr 1
          refine eq_of_map_eq (fun m hm m' hm' hmm' => ?_) heq
          obtain ⟨hkey, hvalue⟩ := Prod.mk.inj hmm'
          refine Prod.ext (Option.some.inj hkey) (ih m hm ?_ hvalue)
          exact fun n hn n' hn' => h n m hm hn n' m' hm' hn'
      | _ => simp [tree] at heq

/-- No number in one value looks like another number in the other. -/
def PrintedApart (v v' : Json) : Prop :=
  ∀ n ∈ v.numbers, ∀ n' ∈ v'.numbers, n.PrintedApart n'

section

variable {v v' : Json}

theorem eq_of_treeDocument (h : v.IsPrinted) (h' : v'.IsPrinted) (happart : v.PrintedApart v')
    {bs : Bytes} (htree : TreeDocument v.tree bs) (htree' : TreeDocument v'.tree bs) : v = v' := by
  refine eq_of_tree_eq (fun n hn n' hn' => ?_) (htree'.unique htree)
  exact Number.eq_of_literal (h n hn) (h' n' hn') (happart n hn n' hn')

theorem compact_inj (h : v.IsPrinted) (h' : v'.IsPrinted) (happart : v.PrintedApart v') :
    v.compact = v'.compact ↔ v = v' := by
  constructor
  · intro heq
    exact eq_of_treeDocument h h' happart (treeDocument_compact h) (heq ▸ treeDocument_compact h')
  · rintro rfl
    rfl

theorem spread_inj (h : v.IsPrinted) (h' : v'.IsPrinted) (happart : v.PrintedApart v') :
    v.spread = v'.spread ↔ v = v' := by
  constructor
  · intro heq
    exact eq_of_treeDocument h h' happart (treeDocument_spread h) (heq ▸ treeDocument_spread h')
  · rintro rfl
    rfl

end

/-! ### Keys -/

/-- No key occurs twice in an object. -/
inductive Tree.KeysOnce : Tree → Prop
  | null : KeysOnce .null
  | bool (b : Bool) : KeysOnce (.bool b)
  | num (l : Literal) : KeysOnce (.num l)
  | text (x : Option String) : KeysOnce (.text x)
  | list {items : List Tree} (h : ∀ v ∈ items, KeysOnce v) : KeysOnce (.list items)
  | object {ms : List Tree.Member} (hkeys : (ms.map Prod.fst).Nodup) (h : ∀ m ∈ ms, KeysOnce m.2) :
      KeysOnce (.object ms)

/-- No key occurs twice in an object. -/
inductive KeysOnce : Json → Prop
  | null : KeysOnce .null
  | bool (b : Bool) : KeysOnce (.bool b)
  | num (n : Number) : KeysOnce (.num n)
  | text (x : String) : KeysOnce (.text x)
  | list {items : List Json} (h : ∀ v ∈ items, KeysOnce v) : KeysOnce (.list items)
  | object {ms : List (String × Json)} (hkeys : (ms.map Prod.fst).Nodup)
      (h : ∀ m ∈ ms, KeysOnce m.2) : KeysOnce (.object ms)

theorem KeysOnce.tree {v : Json} (h : v.KeysOnce) : v.tree.KeysOnce := by
  induction h with
  | null => simpa only [Json.tree] using Tree.KeysOnce.null
  | bool b => simpa only [Json.tree] using Tree.KeysOnce.bool b
  | num n => simpa only [Json.tree] using Tree.KeysOnce.num n.literal
  | text x => simpa only [Json.tree] using Tree.KeysOnce.text (some x)
  | list _ ih =>
      rw [Json.tree]
      exact .list (List.forall_mem_map.mpr ih)
  | @object ms hkeys _ ih =>
      rw [Json.tree]
      refine .object ?_ (List.forall_mem_map.mpr ih)
      have hsome : (ms.map fun m => (some m.1, m.2.tree)).map Prod.fst
          = (ms.map Prod.fst).map some := by
        simp
      rw [hsome]
      exact hkeys.map fun _ _ => Option.some.inj

/-- The bytes are a document, of one tree alone, and in it no object has a key twice. -/
def IsDocument (bs : Bytes) : Prop :=
  ∃ v : Tree, v.KeysOnce ∧ ∀ v', TreeDocument v' bs ↔ v' = v

theorem isDocument_of_treeDocument {v : Json} {bs : Bytes} (hkeys : v.KeysOnce)
    (h : TreeDocument v.tree bs) : IsDocument bs :=
  ⟨v.tree, hkeys.tree, fun _ => h.eq_iff⟩

end ReviewDesk.Json
