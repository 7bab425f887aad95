/-
Readers that take every text of a value.

`p.Reads v a` says that `p` answers `a` on any text of the value `v`, after any white
space and before anything that may follow a value, and leaves what follows.  It is a
statement about the value alone, so readers compose by it: what a list, an object or a
document needs of the readers it is given is that they read the parts.
-/
import Mathlib.Data.List.Forall2
import ReviewDesk.Proofs.Json.Texts
import ReviewDesk.Proofs.Json.Literals

namespace ReviewDesk.Json

/-! ### The bytes in front -/

theorem Blanks.dropWhile {s t : Bytes} (h : Blanks s t) :
    s.dropWhile isBlank = t.dropWhile isBlank := by
  induction h with
  | none => rfl
  | more hb _ ih => rw [List.dropWhile_cons_of_pos hb, ih]

theorem dropWhile_of_not_blank {s : Bytes} (h : ∀ b ∈ s.head?, isBlank b = false) :
    s.dropWhile isBlank = s := by
  cases s with
  | nil => rfl
  | cons b s => exact List.dropWhile_cons_of_neg (by simp [h b rfl])

/-- What a value begins with is no white space and does not close a list. -/
theorem not_blank_of_opens {v : Json} {b : UInt8} (h : opens v b = true) :
    isBlank b = false ∧ b ≠ ascii ']' := by
  have hdigit : isDigit b = true → isBlank b = false ∧ b ≠ ascii ']' := by
    simp only [isDigit, isBlank, Bool.and_eq_true, decide_eq_true_eq, Bool.or_eq_false_iff,
      beq_eq_false_iff_ne]
    rintro ⟨hlow, hhigh⟩
    refine ⟨⟨⟨⟨?_, ?_⟩, ?_⟩, ?_⟩, ?_⟩ <;>
      (rintro rfl; revert hlow hhigh; decide)
  cases v with
  | num =>
      rcases (by simpa [opens] using h : b = ascii '-' ∨ isDigit b = true) with rfl | hd
      · decide
      · exact hdigit hd
  | bool c =>
      cases c <;>
        (obtain rfl : b = _ := by simpa [opens] using h
         decide)
  | _ =>
      obtain rfl : b = _ := by simpa [opens] using h
      decide

namespace Reader

variable {α β : Type}

/-- White space is dropped, up to a byte that is none. -/
theorem run_blanks_bind {p : Reader β} {s t : Bytes} (h : Blanks s t)
    (ht : ∀ b ∈ t.head?, isBlank b = false) : (blanks >>= fun _ => p).run s = p.run t := by
  show p.run (s.dropWhile isBlank) = _
  rw [h.dropWhile, dropWhile_of_not_blank ht]

theorem run_blanks {p : Reader β} {s t : Bytes} {b : UInt8} (h : Blanks s (b :: t))
    (hb : isBlank b = false) : (blanks >>= fun _ => p).run s = p.run (b :: t) := by
  refine run_blanks_bind h ?_
  rintro c ⟨⟩
  exact hb

theorem run_startingWith {read : UInt8 → Reader α} {s t : Bytes} {b : UInt8}
    (h : Blanks s (b :: t)) (hb : isBlank b = false) :
    (startingWith read).run s = (read b).run (b :: t) := by
  rw [startingWith, run_blanks h hb]
  rfl

/-! ### Reading a value -/

/-- Every text of `v` is read as `a`. -/
def Reads (p : Reader α) (v : Json) (a : α) : Prop :=
  ∀ ⦃s s' t⦄, Blanks s s' → Value v s' t → Ends t → p.run s = .ok (a, t)

variable {p : Reader α} {v : Json} {a : α}

theorem Reads.map (h : p.Reads v a) (f : α → β) : (p >>= fun x => pure (f x)).Reads v (f a) := by
  intro s s' t hs hv ht
  rw [run_bind_ok (h hs hv ht), run_pure]

/-- A reader that looks at the first byte reads what it reads from that byte on. -/
theorem reads_startingWith {read : UInt8 → Reader α}
    (h : ∀ ⦃b s t⦄, opens v b = true → Value v (b :: s) t → Ends t →
      (read b).run (b :: s) = .ok (a, t)) : (startingWith read).Reads v a := by
  intro s s' t hs hv ht
  obtain ⟨b, r, rfl, hb⟩ := hv.opens
  rw [run_startingWith hs (not_blank_of_opens hb).1]
  exact h hb hv ht

/-- What reads the value of a document reads the document. -/
theorem Reads.document (h : p.Reads v a) {bs : Bytes} (hdoc : Document v bs) :
    p.document bs = .ok a := by
  obtain ⟨s, t, hs, hv, ht⟩ := hdoc
  have hends : Ends t := ht.ends (by rintro b ⟨⟩)
  have hfinish : finish.run t = .ok ((), []) := by
    rw [finish, run_blanks_bind ht (by rintro b ⟨⟩)]
    rfl
  rw [Reader.document, run_bind_ok (h hs hv hends), run_bind_ok hfinish, run_pure]

theorem reads_textValue (expected : String) (x : String) :
    (textValue expected).Reads (.text x) x := by
  refine reads_startingWith fun b s t _ hv _ => ?_
  cases hv with
  | text h =>
      rw [if_pos (beq_self_eq_true _), run_skip_bind]
      exact run_text h

theorem reads_boolValue (b : Bool) : boolValue.Reads (.bool b) b := by
  intro s s' t hs hv _
  cases hv
  cases b with
  | true =>
      rw [boolValue, run_startingWith (b := ascii 't') hs (by decide), if_pos (beq_self_eq_true _), run_skip_bind]
      exact run_bind_ok (run_word ['r', 'u', 'e'] t)
  | false =>
      rw [boolValue, run_startingWith (b := ascii 'f') hs (by decide), if_neg (by decide),
        if_pos (beq_self_eq_true _), run_skip_bind]
      exact run_bind_ok (run_word ['a', 'l', 's', 'e'] t)

theorem reads_numberValue (expected : String) (n : Number) :
    (numberValue expected).Reads (.num n) n := by
  refine reads_startingWith fun b s t hb hv ht => ?_
  cases hv with
  | num hl hn =>
      rw [if_pos (show (b == ascii '-' || isDigit b) = true from hb)]
      exact run_number hl ht hn

theorem reads_natUpTo {n bound : Nat} (h : n ≤ bound) (expected : String) :
    (natUpTo bound expected).Reads (ofNat n) n := by
  intro s s' t hs hv ht
  have hn : (0 : Int) ≤ n ∧ (n : Int) ≤ bound := ⟨Int.natCast_nonneg n, Int.ofNat_le.mpr h⟩
  rw [natUpTo, run_bind_ok (reads_numberValue expected _ hs hv ht)]
  simp only [if_pos hn, run_pure, Int.toNat_natCast]

theorem reads_uint8 (n : UInt8) : uint8.Reads (ofNat n.toNat) n := by
  have h : n.toNat ≤ UInt8.size - 1 := Nat.le_of_lt_succ n.toNat_lt
  have hread := (reads_natUpTo h "u8").map Nat.toUInt8
  rwa [show n.toNat.toUInt8 = n from UInt8.ofNat_toNat] at hread

theorem reads_uint64 (n : UInt64) : uint64.Reads (ofNat n.toNat) n := by
  have h : n.toNat ≤ UInt64.size - 1 := Nat.le_of_lt_succ n.toNat_lt
  have hread := (reads_natUpTo h "u64").map Nat.toUInt64
  rwa [show n.toNat.toUInt64 = n from UInt64.ofNat_toNat] at hread

theorem reads_double (n : Number) : double.Reads (.num n) n.toFloat :=
  (reads_numberValue "f64" n).map Number.toFloat

/-! ### Something or nothing -/

theorem reads_optional_null (p : Reader α) : (optional p).Reads .null none := by
  intro s s' t hs hv _
  cases hv
  rw [optional, run_blanks (b := ascii 'n') hs (by decide), run_peek_bind, List.head?_cons,
    if_pos (by decide), run_skip_bind]
  exact run_bind_ok (run_word ['u', 'l', 'l'] t)

/-- Only null begins with the letter that null begins with. -/
theorem ne_n_of_opens {v : Json} {b : UInt8} (h : opens v b = true) (hv : v ≠ .null) :
    b ≠ ascii 'n' := by
  rintro rfl
  cases v with
  | null => exact hv rfl
  | bool c => cases c <;> cases h
  | _ => cases h

theorem Reads.optional (h : p.Reads v a) (hv : v ≠ .null) : (optional p).Reads v (some a) := by
  intro s s' t hs hval ht
  obtain ⟨b, r, rfl, hb⟩ := hval.opens
  have hb' : (some b == some (ascii 'n')) = false :=
    beq_eq_false_iff_ne.mpr fun h => ne_n_of_opens hb hv (Option.some.inj h)
  rw [Reader.optional, run_blanks hs (not_blank_of_opens hb).1]
  simp only [run_peek_bind, List.head?_cons, hb', Bool.false_eq_true, if_false]
  rw [run_bind_ok (h .none hval ht), run_pure]

/-! ### Lists -/

variable {item : Reader α} {s t : Bytes}

theorem run_firstItem (h : Blanks s (ascii ']' :: t)) : firstItem.run s = .ok (false, t) := by
  rw [firstItem, run_blanks h (by decide)]
  rfl

theorem run_firstItem_value {b : UInt8} (h : Blanks s (b :: t)) (hb : opens v b = true) :
    firstItem.run s = .ok (true, b :: t) := by
  obtain ⟨hblank, hclose⟩ := not_blank_of_opens hb
  rw [firstItem, run_blanks h hblank]
  simp only [run_peek_bind, List.head?_cons, beq_eq_false_iff_ne.mpr hclose, Bool.false_eq_true,
    if_false, run_pure]

theorem run_furtherItem (h : Blanks s (ascii ']' :: t)) : furtherItem.run s = .ok (false, t) := by
  rw [furtherItem, run_blanks h (by decide)]
  rfl

theorem run_furtherItem_value {s' : Bytes} {b : UInt8} (hcomma : Blanks s (ascii ',' :: s'))
    (h : Blanks s' (b :: t)) (hb : opens v b = true) :
    furtherItem.run s = .ok (true, b :: t) := by
  obtain ⟨hblank, hclose⟩ := not_blank_of_opens hb
  have hne : (ascii ',' == ascii ']') = false := by decide
  rw [furtherItem, run_blanks hcomma (by decide)]
  simp only [run_next_bind, hne, Bool.false_eq_true, if_false, beq_self_eq_true, if_true]
  rw [run_blanks h hblank]
  simp only [run_peek_bind, List.head?_cons, beq_eq_false_iff_ne.mpr hclose, Bool.false_eq_true,
    if_false, run_pure]

/-- The values are read as the items, one by one. -/
abbrev ReadsAll (item : Reader α) (vs : List Json) (as : List α) : Prop :=
  List.Forall₂ item.Reads vs as

/-- After an item; those before are held last first. -/
theorem run_furtherItems {vs : List Json} {as before : List α}
    {strict : ∀ st, (listStep item st).Strict} (h : Further ']' Value vs s t)
    (hread : ReadsAll item vs as) :
    (iterate (listStep item) strict before).run s = .ok (before.reverse ++ as, t) := by
  induction h generalizing before as with
  | close hclose =>
      cases hread
      rw [run_iterate_inr (run_bind_ok (run_furtherItem hclose)), List.append_nil]
  | comma hcomma hs hx h ih =>
      cases hread with
      | @cons _ a _ as hitem hrest =>
        have hrun := hitem .none hx (h.ends (.inl rfl))
        obtain ⟨b, r, rfl, hb⟩ := hx.opens
        have hstep : (listStep item before).run _ = .ok (.inl (a :: before), _) :=
          (run_bind_ok (run_furtherItem_value hcomma hs hb)).trans (run_bind_ok hrun)
        rw [run_iterate_inl hstep, ih hrest, List.reverse_cons, List.append_assoc,
          List.singleton_append]

theorem reads_listValue {vs : List Json} {as : List α} (hread : ReadsAll item vs as) :
    (listValue item).Reads (.list vs) as := by
  refine reads_startingWith fun b s t _ hv _ => ?_
  cases hv with
  | list h =>
    rw [if_pos (beq_self_eq_true _), run_skip_bind, list]
    cases h with
    | empty hclose =>
        cases hread
        rw [run_bind_ok (run_firstItem hclose)]
        rfl
    | first hs hx h =>
        cases hread with
        | cons hitem hrest =>
          have hrun := hitem .none hx (h.ends (.inl rfl))
          obtain ⟨b, r, rfl, hb⟩ := hx.opens
          rw [run_bind_ok (run_firstItem_value hs hb), if_pos rfl, run_bind_ok hrun]
          exact run_furtherItems h hrest

end Reader

end ReviewDesk.Json
