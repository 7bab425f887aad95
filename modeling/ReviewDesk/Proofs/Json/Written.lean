/-
What is written for a value is a text of the value.

The compact and the spread form differ in the white space between the parts and in
nothing else.  So do lists and objects, apart from what stands between two commas.
`laidOut` is what the four have in common, and all that is asked of the white space is
that the grammar passes over it.

The induction is on the evidence that the numbers inside are exact, which follows the
value into its lists and objects.
-/
import ReviewDesk.Proofs.Json.Escapes
import ReviewDesk.Proofs.Json.Numbers

namespace ReviewDesk.Json

open Text

/-- Values with nothing in them that would be written as something else. -/
inductive Exact : Json → Prop
  | null : Exact .null
  | bool (b : Bool) : Exact (.bool b)
  | num {n : Number} (h : n.Exact) : Exact (.num n)
  | text (x : String) : Exact (.text x)
  | list {items : List Json} (h : ∀ v ∈ items, Exact v) : Exact (.list items)
  | object {members : List (String × Json)} (h : ∀ m ∈ members, Exact m.2) :
      Exact (.object members)

/-- Characters that are white space wherever they stand. -/
def Space (cs : List Char) : Prop :=
  ∀ t, Blanks (encode cs ++ t) t

theorem space_nil : Space [] := fun _ => .none

theorem space_newLine (depth : Nat) : Space (newLine depth) := by
  intro t
  have hspaces : ∀ n, Blanks (encode (List.replicate n ' ') ++ t) t := by
    intro n
    induction n with
    | zero => exact .none
    | succ n ih =>
        rw [List.replicate_succ, encode_ascii_cons _ (by decide)]
        exact .more (by decide) ih
  rw [newLine, encode_ascii_cons _ (by decide)]
  exact .more (by decide) (hspaces _)

/-! ### Between brackets -/

section

variable {α : Type} (before after : List Char) (close : Char) (write : α → List Char)

/-- Things up to the closing bracket, with white space before each and after the last. -/
def laidOut : List α → List Char
  | [] => after ++ [close]
  | [x] => before ++ write x ++ after ++ [close]
  | x :: xs => before ++ write x ++ ',' :: laidOut xs

end

section

variable {α : Type} {thing : α → Bytes → Bytes → Prop} {close : Char} {s t : Bytes}

/-- Things of which each is written as it should be are so between brackets. -/
theorem bracketed_laidOut {before after : List Char} {write : α → List Char} {xs : List α}
    (hbefore : Space before) (hafter : Space after) (hclose : close.toNat < 0x80)
    (h : ∀ x ∈ xs, ∀ t, thing x (encode (write x) ++ t) t) (t : Bytes) :
    Bracketed close thing xs (encode (laidOut before after close write xs) ++ t) t := by
  have hend : ∀ t, Blanks (encode (after ++ [close]) ++ t) (ascii close :: t) := by
    intro t
    rw [encode_append, encode_ascii_cons [] hclose, List.append_assoc]
    exact hafter _
  induction xs with
  | nil => exact .empty (hend t)
  | cons x xs ih =>
      have hx := h x (List.mem_cons_self ..)
      cases xs with
      | nil =>
          simp only [laidOut, encode_append, List.append_assoc]
          refine .first (hbefore _) (hx _) (.close ?_)
          simpa using hend t
      | cons y ys =>
          have hrest := ih fun z hz => h z (List.mem_cons_of_mem _ hz)
          simp only [laidOut, encode_append, List.append_assoc]
          rw [encode_ascii_cons _ (by decide)]
          exact .first (hbefore _) (hx _) (hrest.further .none)

end

/-- A member, with white space after the colon. -/
def memberChars (space : List Char) (write : Json → List Char) (m : String × Json) : List Char :=
  textChars m.1 ++ ':' :: (space ++ write m.2)

theorem member_memberChars {space : List Char} {write : Json → List Char} {m : String × Json}
    (hspace : Space space) (h : ∀ t, Value m.2 (encode (write m.2) ++ t) t) (t : Bytes) :
    Member Value m (encode (memberChars space write m) ++ t) t := by
  rw [memberChars, encode_append, List.append_assoc, encode_textChars,
    encode_ascii_cons _ (by decide), encode_append, List.cons_append, List.append_assoc]
  exact .mk (textOf_escaped m.1 _) .none (hspace _) (h t)

/-! ### The two forms -/

theorem compactItems_eq (items : List Json) :
    compactItems items = laidOut [] [] ']' compactChars items := by
  induction items with
  | nil => rfl
  | cons v vs ih =>
      cases vs with
      | nil => simp [compactItems, laidOut]
      | cons w ws => simp only [compactItems, laidOut, ih, List.nil_append]

theorem compactMembers_eq (members : List (String × Json)) :
    compactMembers members = laidOut [] [] '\x7d' (memberChars [] compactChars) members := by
  induction members with
  | nil => rfl
  | cons m ms ih =>
      cases ms with
      | nil => simp [compactMembers, laidOut, memberChars]
      | cons m' ms => simp [compactMembers, laidOut, memberChars, ih]

theorem spreadItems_eq (depth : Nat) (items : List Json) :
    spreadItems depth items
      = laidOut (newLine (depth + 1)) (newLine depth) ']' (spreadChars (depth + 1)) items := by
  induction items with
  | nil => rfl
  | cons v vs ih =>
      cases vs with
      | nil => simp [spreadItems, laidOut]
      | cons w ws => simp [spreadItems, laidOut, ih]

theorem spreadMembers_eq (depth : Nat) (members : List (String × Json)) :
    spreadMembers depth members
      = laidOut (newLine (depth + 1)) (newLine depth) '\x7d'
          (memberChars [' '] (spreadChars (depth + 1))) members := by
  induction members with
  | nil => rfl
  | cons m ms ih =>
      cases ms with
      | nil => simp [spreadMembers, laidOut, memberChars]
      | cons m' ms => simp [spreadMembers, laidOut, memberChars, ih]

theorem value_boolChars (b : Bool) (t : Bytes) : Value (.bool b) (encode (boolChars b) ++ t) t := by
  have hword : encode (boolChars b) = (boolWord b).map ascii := by
    cases b <;> decide
  rw [hword]
  exact .bool

theorem value_textChars (x : String) (t : Bytes) : Value (.text x) (encode (textChars x) ++ t) t := by
  rw [encode_textChars]
  exact .text (textOf_escaped x t)

theorem value_compactChars {v : Json} (h : v.Exact) (t : Bytes) :
    Value v (encode (compactChars v) ++ t) t := by
  induction h generalizing t with
  | null => exact .null
  | bool b => exact value_boolChars b t
  | num h => exact value_number h t
  | text x => exact value_textChars x t
  | list _ ih =>
      rw [compactChars, compactItems_eq, encode_ascii_cons _ (by decide)]
      exact .list (bracketed_laidOut space_nil space_nil (by decide) ih t)
  | object _ ih =>
      rw [compactChars, compactMembers_eq, encode_ascii_cons _ (by decide)]
      refine .object (bracketed_laidOut space_nil space_nil (by decide) ?_ t)
      exact fun m hm => member_memberChars space_nil (ih m hm)

theorem value_spreadChars {v : Json} (h : v.Exact) (depth : Nat) (t : Bytes) :
    Value v (encode (spreadChars depth v) ++ t) t := by
  induction h generalizing depth t with
  | null => exact .null
  | bool b => exact value_boolChars b t
  | num h => exact value_number h t
  | text x => exact value_textChars x t
  | @list items _ ih =>
      cases items with
      | nil => exact .list (.empty .none)
      | cons v vs =>
          rw [spreadChars, spreadItems_eq, encode_ascii_cons _ (by decide)]
          · exact .list (bracketed_laidOut (space_newLine _) (space_newLine _) (by decide)
              (fun w hw => ih w hw (depth + 1)) t)
          · simp
  | @object members _ ih =>
      cases members with
      | nil => exact .object (.empty .none)
      | cons m ms =>
          rw [spreadChars, spreadMembers_eq, encode_ascii_cons _ (by decide)]
          · refine .object (bracketed_laidOut (space_newLine _) (space_newLine _) (by decide) ?_ t)
            have hspace : Space [' '] := fun _ => .more (by decide) .none
            exact fun m hm => member_memberChars hspace (ih m hm (depth + 1))
          · simp

/-- The compact text of a value is a document of the value. -/
theorem document_compact {v : Json} (h : v.Exact) : Document v (bytes v.compact) := by
  have hvalue := value_compactChars h []
  rw [List.append_nil, ← bytes_ofList] at hvalue
  exact ⟨_, [], .none, hvalue, .none⟩

/-- The spread text of a value is a document of the value. -/
theorem document_spread {v : Json} (h : v.Exact) : Document v (bytes v.spread) := by
  have hvalue := value_spreadChars h 0 []
  rw [List.append_nil, ← bytes_ofList] at hvalue
  exact ⟨_, [], .none, hvalue, .none⟩

end ReviewDesk.Json
