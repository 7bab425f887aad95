/-
One value in a record.

`Place` is a record that is laid out but for the value of one field: an object with other
members before and after it, or a list with the values of other fields.  If some value there
makes a row, then every value makes a row as far as its field takes it for something, and the
rows differ in that field alone (`Tree.row?_place`).  The row that is known rules out what a
place could hide, a second member with the key; where nothing is known of any value, two that
are taken for the same still come to the same (`Tree.row?_place_congr`).
-/
import ReviewDesk.Proofs.Json.Layout

namespace ReviewDesk.Json

/-- A record laid out but for the value of the field with this key. -/
inductive Place (keys : List String) (k : String) : (Tree → Tree) → Prop
  | member (before after : List Tree.Member) :
      Place keys k fun v => .object (before ++ (some k, v) :: after)
  | item {before : List Tree} (hbefore : keys[before.length]? = some k) (after : List Tree) :
      Place keys k fun v => .list (before ++ v :: after)

/-- The second row has what the fields with this key take the value for, and all else from
the first. -/
def Row.Sets : (fs : List Field) → Meanings fs → String → Tree → Row fs → Row fs → Prop
  | [], _, _, _, _, _ => True
  | f :: fs, (g, gs), k, v, (w, row), (w', row') =>
    (if k = f.key then g.of v = some w' else w' = w) ∧ Row.Sets fs gs k v row row'

variable {f : Field} {fs : List Field} {k : String} {v v' x : Tree} {row row' : Row fs}

theorem Row.cons_eq_some {w? : Option f.Value} {row? : Option (Row fs)} {w : f.Value} :
    (w?.bind fun w => row?.map fun row => ((w, row) : Row (f :: fs))) = some (w, row) ↔
      w? = some w ∧ row? = some row := by
  cases w? with
  | none => exact iff_of_false nofun nofun
  | some w₀ =>
      cases row? with
      | none => exact iff_of_false nofun nofun
      | some row₀ =>
          constructor
          · rintro ⟨⟩
            exact ⟨rfl, rfl⟩
          · rintro ⟨⟨⟩, ⟨⟩⟩
            rfl

/-! ### Rows of objects -/

section

variable {before after : List Tree.Member}

/-- At a field of its own, another value is taken as the only one. -/
theorem Field.ofValues_place (g : f.Meaning) {w : f.Value}
    (h : f.ofValues g (valuesAt f.key (before ++ (some f.key, x) :: after)) = some w) :
    f.ofValues g (valuesAt f.key (before ++ (some f.key, v) :: after)) = g.of v := by
  rw [valuesAt_append, valuesAt_cons_self] at h ⊢
  have hlength : ¬ 2 ≤ (valuesAt f.key before ++ x :: valuesAt f.key after).length := by
    intro htwo
    rw [Field.ofValues_of_two_le g htwo] at h
    cases h
  rw [List.length_append, List.length_cons] at hlength
  obtain ⟨hbefore, hafter⟩ :
      (valuesAt f.key before).length = 0 ∧ (valuesAt f.key after).length = 0 := by omega
  rw [List.length_eq_zero_iff.mp hbefore, List.length_eq_zero_iff.mp hafter]
  rfl

/-- At every other field the value plays no part. -/
theorem Field.ofValues_elsewhere (g : f.Meaning) (hk : k ≠ f.key) :
    f.ofValues g (valuesAt f.key (before ++ (some k, v) :: after)) =
      f.ofValues g (valuesAt f.key (before ++ (some k, x) :: after)) := by
  have hne (y : Tree) : (some k, y).1 ≠ some f.key := fun heq => hk (Option.some.inj heq)
  rw [valuesAt_append, valuesAt_append, valuesAt_cons_ne (hne v), valuesAt_cons_ne (hne x)]

theorem Row.ofMembers_place (gs : Meanings fs)
    (h : Row.ofMembers fs gs (before ++ (some k, x) :: after) = some row) :
    Row.ofMembers fs gs (before ++ (some k, v) :: after) = some row' ↔
      Row.Sets fs gs k v row row' := by
  induction fs with
  | nil =>
      have hall : (before ++ (some k, v) :: after).all (fun m => m.1.isSome) = true := by
        rw [Row.ofMembers] at h
        split at h
        · next hall => simpa using hall
        · cases h
      rw [Row.ofMembers, if_pos hall]
      exact iff_of_true rfl trivial
  | cons f fs ih =>
      obtain ⟨g, gs⟩ := gs
      obtain ⟨w, row⟩ := row
      obtain ⟨w', row'⟩ := row'
      obtain ⟨hw, hrest⟩ := Row.cons_eq_some.mp h
      have hfield : f.ofValues g (valuesAt f.key (before ++ (some k, v) :: after)) = some w' ↔
          if k = f.key then g.of v = some w' else w' = w := by
        by_cases hk : k = f.key
        · subst hk
          rw [if_pos rfl, Field.ofValues_place g hw]
        · rw [if_neg hk, Field.ofValues_elsewhere g hk, hw, Option.some.injEq, eq_comm]
      rw [Row.Sets, ← hfield, ← ih gs hrest]
      exact Row.cons_eq_some

end

/-! ### Rows of lists -/

/-- Nothing is set where no field has the key. -/
theorem Row.sets_of_not_mem {gs : Meanings fs} (hk : k ∉ fs.map Field.key) :
    Row.Sets fs gs k v row row' ↔ row' = row := by
  induction fs with
  | nil => exact iff_of_true trivial rfl
  | cons f fs ih =>
      obtain ⟨g, gs⟩ := gs
      obtain ⟨w, row⟩ := row
      obtain ⟨w', row'⟩ := row'
      obtain ⟨hf, hfs⟩ : k ≠ f.key ∧ k ∉ fs.map Field.key := by simpa using hk
      rw [Row.Sets, if_neg hf, ih hfs]
      constructor
      · rintro ⟨rfl, rfl⟩
        rfl
      · rintro ⟨⟩
        exact ⟨rfl, rfl⟩

theorem Row.ofItems_place (gs : Meanings fs) (hfs : (fs.map Field.key).Nodup)
    {before after : List Tree} (hbefore : (fs.map Field.key)[before.length]? = some k)
    (h : Row.ofItems fs gs (before ++ x :: after) = some row) :
    Row.ofItems fs gs (before ++ v :: after) = some row' ↔ Row.Sets fs gs k v row row' := by
  induction fs generalizing before with
  | nil => simp at hbefore
  | cons f fs ih =>
      obtain ⟨g, gs⟩ := gs
      obtain ⟨w, row⟩ := row
      obtain ⟨w', row'⟩ := row'
      obtain ⟨hf, hfs⟩ := List.nodup_cons.mp hfs
      cases before with
      | nil =>
          obtain rfl : f.key = k := by simpa using hbefore
          obtain ⟨-, hrest⟩ := Row.cons_eq_some.mp h
          have hrow : row' = row ↔ Row.ofItems fs gs after = some row' := by
            rw [hrest, Option.some.injEq, eq_comm]
          rw [Row.Sets, if_pos rfl, Row.sets_of_not_mem hf, hrow]
          exact Row.cons_eq_some
      | cons y before =>
          rw [List.length_cons, List.map_cons, List.getElem?_cons_succ] at hbefore
          have hk : k ≠ f.key := by
            rintro rfl
            exact hf (List.mem_of_getElem? hbefore)
          obtain ⟨hw, hrest⟩ := Row.cons_eq_some.mp h
          have hvalue : w' = w ↔ g.of y = some w' := by
            rw [hw, Option.some.injEq, eq_comm]
          rw [Row.Sets, if_neg hk, ← ih gs hfs hbefore hrest, hvalue]
          exact Row.cons_eq_some

/-! ### Rows of records -/

/-- A record is not null, whatever stands in it. -/
theorem Tree.optional?_place {α : Type} {g : Tree → Option α} {keys : List String}
    {place : Tree → Tree} (hplace : Place keys k place) (v : Tree) :
    Tree.optional? g (place v) = (g (place v)).map some := by
  cases hplace <;> rfl

section

variable {place : Tree → Tree} (gs : Meanings fs)

/-- Another value at a place of a record that makes a row. -/
theorem Tree.row?_place (hplace : Place (fs.map Field.key) k place)
    (hfs : (fs.map Field.key).Nodup) (h : (place x).row? fs gs = some row) :
    (place v).row? fs gs = some row' ↔ Row.Sets fs gs k v row row' := by
  cases hplace with
  | member before after => exact Row.ofMembers_place gs h
  | item hbefore after => exact Row.ofItems_place gs hfs hbefore h

/-- What a value sets, another one sets that is taken for the same. -/
theorem Row.Sets.congr {gs : Meanings fs} (h : Row.Sets fs gs k v row row')
    (hagree : Meanings.Agree fs gs (some k) v v') : Row.Sets fs gs k v' row row' := by
  induction fs with
  | nil => trivial
  | cons f fs ih =>
      obtain ⟨g, gs⟩ := gs
      obtain ⟨w, row⟩ := row
      obtain ⟨w', row'⟩ := row'
      refine ⟨?_, ih h.2 hagree.2⟩
      have hfield := h.1
      by_cases hk : k = f.key
      · rw [if_pos hk] at hfield ⊢
        rw [hagree.1 (congrArg some hk), hfield]
      · rwa [if_neg hk] at hfield ⊢

theorem Meanings.Agree.symm {gs : Meanings fs} {key : Option String}
    (h : Meanings.Agree fs gs key v v') : Meanings.Agree fs gs key v' v := by
  induction fs with
  | nil => trivial
  | cons f fs ih => exact ⟨fun hk => (h.1 hk).symm, ih h.2⟩

theorem Tree.row?_place_of_agree (hplace : Place (fs.map Field.key) k place)
    (hfs : (fs.map Field.key).Nodup) (hagree : Meanings.Agree fs gs (some k) v v')
    (h : (place v).row? fs gs = some row) : (place v').row? fs gs = some row := by
  have hsets : Row.Sets fs gs k v row row := (Tree.row?_place gs hplace hfs h).mp h
  exact (Tree.row?_place gs hplace hfs h).mpr (hsets.congr hagree)

/-- Nothing is set to a value that its field takes for nothing. -/
theorem Row.Sets.not_refuse {gs : Meanings fs} (h : Row.Sets fs gs k v row row') :
    ¬ Meanings.Refuse fs gs k v := by
  induction fs with
  | nil => exact id
  | cons f fs ih =>
      obtain ⟨g, gs⟩ := gs
      obtain ⟨w, row⟩ := row
      obtain ⟨w', row'⟩ := row'
      rintro (⟨hk, hnone⟩ | hrefuse)
      · have hfield := h.1
        rw [if_pos hk, hnone] at hfield
        cases hfield
      · exact ih h.2 hrefuse

/-- A value that its field takes for nothing makes no row at any place. -/
theorem Tree.row?_place_refused (hplace : Place (fs.map Field.key) k place)
    (hfs : (fs.map Field.key).Nodup) (h : Meanings.Refuse fs gs k v) :
    (place v).row? fs gs = none := by
  refine Option.eq_none_iff_forall_not_mem.mpr fun row hrow => ?_
  have hsets : Row.Sets fs gs k v row row := (Tree.row?_place gs hplace hfs hrow).mp hrow
  exact hsets.not_refuse h

/-- Two values that are taken for the same come to the same at every place. -/
theorem Tree.row?_place_congr (hplace : Place (fs.map Field.key) k place)
    (hfs : (fs.map Field.key).Nodup) (hagree : Meanings.Agree fs gs (some k) v v') :
    (place v').row? fs gs = (place v).row? fs gs := by
  refine Option.ext fun row => ⟨?_, ?_⟩
  · exact Tree.row?_place_of_agree gs hplace hfs hagree.symm
  · exact Tree.row?_place_of_agree gs hplace hfs hagree

end

end ReviewDesk.Json
