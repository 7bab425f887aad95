/-
What an object comes to does not depend on how its members are laid out.

`Row.ofMembers` looks at nothing but the values at each key, and of several values at one
key only at how many there are.  So members may change places and others with unknown keys
may stand among them (`Row.ofMembers_rearranged`), a value may be replaced by one that its
field takes for the same (`Row.ofMembers_congr`), and a known key that comes twice leaves
nothing (`Row.ofMembers_repeats`).
-/
import Mathlib.Data.List.Forall2
import ReviewDesk.Proofs.Json.Rows

namespace ReviewDesk.Json

/-- The same members in any order, and among others whose keys are none of these. -/
def Rearranged (keys : List String) (ms ms' : List Tree.Member) : Prop :=
  ∃ others, (∀ m ∈ others, ∃ k, m.1 = some k ∧ k ∉ keys) ∧ ms'.Perm (others ++ ms)

/-- One of these keys comes twice. -/
def Repeats (keys : List String) (ms : List Tree.Member) : Prop :=
  ∃ k ∈ keys, 2 ≤ (ms.map Prod.fst).count (some k)

variable {f : Field} {fs : List Field} {keys : List String} {ms ms' : List Tree.Member}

/-! ### The values at a key -/

theorem mem_valuesAt {k : String} {v : Tree} : v ∈ valuesAt k ms ↔ (some k, v) ∈ ms := by
  simp [valuesAt]

theorem valuesAt_append {k : String} :
    valuesAt k (ms ++ ms') = valuesAt k ms ++ valuesAt k ms' :=
  List.filterMap_append ..

theorem length_valuesAt (k : String) (ms : List Tree.Member) :
    (valuesAt k ms).length = (ms.map Prod.fst).count (some k) := by
  induction ms with
  | nil => rfl
  | cons m ms ih =>
      obtain ⟨x, v⟩ := m
      by_cases hx : x = some k
      · subst hx
        rw [valuesAt_cons_self, List.map_cons, List.count_cons_self, List.length_cons, ih]
      · rw [valuesAt_cons_ne hx, List.map_cons, List.count_cons_of_ne hx, ih]

theorem Rearranged.valuesAt (h : Rearranged keys ms ms') {k : String} (hk : k ∈ keys) :
    (valuesAt k ms').Perm (valuesAt k ms) := by
  obtain ⟨others, hothers, hperm⟩ := h
  have hnone : Json.valuesAt k others = [] := by
    refine List.eq_nil_iff_forall_not_mem.mpr fun v hv => ?_
    obtain ⟨k', heq, hk'⟩ := hothers _ (mem_valuesAt.mp hv)
    cases heq
    exact hk' hk
  have happend : Json.valuesAt k (others ++ ms) = Json.valuesAt k ms := by
    rw [valuesAt_append, hnone, List.nil_append]
  rw [← happend]
  exact hperm.filterMap _

theorem Field.ofValues_perm (g : f.Meaning) {vs vs' : List Tree} (h : vs'.Perm vs) :
    f.ofValues g vs' = f.ofValues g vs := by
  match vs, vs', h.length_eq with
  | [], [], _ => rfl
  | [v], [v'], _ => rw [List.perm_singleton.mp h]
  | _ :: _ :: _, _ :: _ :: _, _ => rfl

/-! ### Another order, and other members -/

/-- Members that are rearranged come to the same. -/
theorem Row.ofMembers_rearranged (gs : Meanings fs) (h : Rearranged keys ms ms')
    (hkeys : ∀ f ∈ fs, f.key ∈ keys) : Row.ofMembers fs gs ms' = Row.ofMembers fs gs ms := by
  induction fs with
  | nil =>
      obtain ⟨others, hothers, hperm⟩ := h
      have hnamed : (others.all fun m => m.1.isSome) = true := by
        refine List.all_eq_true.mpr fun m hm => ?_
        obtain ⟨k, hk, -⟩ := hothers m hm
        rw [hk]
        rfl
      rw [Row.ofMembers, Row.ofMembers, hperm.all_eq, List.all_append, hnamed, Bool.true_and]
  | cons f fs ih =>
      obtain ⟨g, gs⟩ := gs
      obtain ⟨hf, hfs⟩ := List.forall_mem_cons.mp hkeys
      rw [Row.ofMembers, Row.ofMembers, Field.ofValues_perm g (h.valuesAt hf), ih gs hfs]

/-! ### Values that come to the same -/

/-- The fields with this key take both values for the same. -/
def Meanings.Agree : (fs : List Field) → Meanings fs → Option String → Tree → Tree → Prop
  | [], _, _, _, _ => True
  | f :: fs, (g, gs), k, v, v' =>
    (k = some f.key → g.of v' = g.of v) ∧ Meanings.Agree fs gs k v v'

theorem Meanings.agree_refl (gs : Meanings fs) (k : Option String) (v : Tree) :
    Meanings.Agree fs gs k v v := by
  induction fs with
  | nil => trivial
  | cons f fs ih =>
      obtain ⟨g, gs⟩ := gs
      exact ⟨fun _ => rfl, ih gs⟩

/-- One member for another: with the same key, and a value that comes to the same. -/
structure Meanings.Alike (gs : Meanings fs) (m m' : Tree.Member) : Prop where
  key : m'.1 = m.1
  value : Meanings.Agree fs gs m.1 m.2 m'.2

theorem Field.ofValues_congr (g : f.Meaning)
    (h : List.Forall₂ (fun m m' => m'.1 = m.1 ∧ (m.1 = some f.key → g.of m'.2 = g.of m.2)) ms ms') :
    f.ofValues g (valuesAt f.key ms') = f.ofValues g (valuesAt f.key ms) := by
  have hvalues : List.Forall₂ (fun v v' => g.of v' = g.of v) (valuesAt f.key ms)
      (valuesAt f.key ms') := by
    induction h with
    | nil => exact .nil
    | @cons m m' ms ms' hm _ ih =>
        obtain ⟨k, v⟩ := m
        obtain ⟨k', v'⟩ := m'
        obtain ⟨rfl, hv⟩ : k' = k ∧ (k = some f.key → g.of v' = g.of v) := hm
        by_cases hk : k' = some f.key
        · subst hk
          rw [valuesAt_cons_self, valuesAt_cons_self]
          exact .cons (hv rfl) ih
        · rw [valuesAt_cons_ne hk, valuesAt_cons_ne hk]
          exact ih
  -- From here on only the values count; how they came to be at the key does not.
  generalize valuesAt f.key ms = vs, valuesAt f.key ms' = vs' at hvalues
  cases hvalues with
  | nil => rfl
  | cons hv hrest =>
      cases hrest with
      | nil => exact hv
      | cons => rfl

/-- Members whose values come to the same come to the same. -/
theorem Row.ofMembers_congr (gs : Meanings fs) (h : List.Forall₂ gs.Alike ms ms') :
    Row.ofMembers fs gs ms' = Row.ofMembers fs gs ms := by
  induction fs with
  | nil =>
      have hall : (ms'.all fun m => m.1.isSome) = ms.all fun m => m.1.isSome := by
        induction h with
        | nil => rfl
        | cons hm _ ih => rw [List.all_cons, List.all_cons, hm.key, ih]
      rw [Row.ofMembers, Row.ofMembers, hall]
  | cons f fs ih =>
      obtain ⟨g, gs⟩ := gs
      have hfield := Field.ofValues_congr g (h.imp fun _ _ hm => ⟨hm.key, hm.value.1⟩)
      have hrest := ih gs (h.imp fun _ _ hm => ⟨hm.key, hm.value.2⟩)
      rw [Row.ofMembers, Row.ofMembers, hfield, hrest]

/-! ### Objects that come to nothing -/

/-- Two values or more are refused unseen. -/
theorem Field.ofValues_of_two_le (g : f.Meaning) {vs : List Tree} (h : 2 ≤ vs.length) :
    f.ofValues g vs = none := by
  rcases vs with _ | ⟨v, _ | ⟨w, vs⟩⟩
  · exact absurd h (Nat.not_succ_le_zero 1)
  · exact absurd h (Nat.not_succ_le_self 1)
  · rfl

/-- So is every value, if there is one that the field takes for nothing. -/
theorem Field.ofValues_of_mem (g : f.Meaning) {vs : List Tree} {v : Tree} (hv : v ∈ vs)
    (hnone : g.of v = none) : f.ofValues g vs = none := by
  rcases vs with _ | ⟨w, _ | ⟨w', vs⟩⟩
  · cases hv
  · obtain rfl := List.mem_singleton.mp hv
    exact hnone
  · rfl

theorem Row.ofMembers_repeats (gs : Meanings fs) (h : Repeats (fs.map Field.key) ms) :
    Row.ofMembers fs gs ms = none := by
  obtain ⟨k, hk, htwice⟩ := h
  rw [← length_valuesAt] at htwice
  induction fs with
  | nil => cases hk
  | cons f fs ih =>
      obtain ⟨g, gs⟩ := gs
      rw [Row.ofMembers]
      rcases List.mem_cons.mp hk with rfl | hk
      · rw [Field.ofValues_of_two_le g htwice]
        rfl
      · rw [ih gs hk]
        cases f.ofValues g (valuesAt f.key ms) <;> rfl

/-- A field with this key takes the value for nothing. -/
def Meanings.Refuse : (fs : List Field) → Meanings fs → String → Tree → Prop
  | [], _, _, _ => False
  | f :: fs, (g, gs), k, v => (k = f.key ∧ g.of v = none) ∨ Meanings.Refuse fs gs k v

theorem Row.ofMembers_refused (gs : Meanings fs) {k : String} {v : Tree} (hmem : (some k, v) ∈ ms)
    (h : Meanings.Refuse fs gs k v) : Row.ofMembers fs gs ms = none := by
  induction fs with
  | nil => exact h.elim
  | cons f fs ih =>
      obtain ⟨g, gs⟩ := gs
      rw [Row.ofMembers]
      rcases h with ⟨rfl, hnone⟩ | h
      · rw [Field.ofValues_of_mem g (mem_valuesAt.mpr hmem) hnone]
        rfl
      · rw [ih gs h]
        cases f.ofValues g (valuesAt f.key ms) <;> rfl

/-- The field at this position takes the value for nothing. -/
def Meanings.RefuseAt : (fs : List Field) → Meanings fs → Nat → Tree → Prop
  | [], _, _, _ => False
  | _ :: _, (g, _), 0, v => g.of v = none
  | _ :: fs, (_, gs), i + 1, v => Meanings.RefuseAt fs gs i v

theorem Row.ofItems_refused (gs : Meanings fs) {before after : List Tree} {v : Tree}
    (h : Meanings.RefuseAt fs gs before.length v) :
    Row.ofItems fs gs (before ++ v :: after) = none := by
  induction fs generalizing before with
  | nil => exact h.elim
  | cons f fs ih =>
      obtain ⟨g, gs⟩ := gs
      cases before with
      | nil =>
          have hnone : g.of v = none := h
          rw [List.nil_append, Row.ofItems, hnone]
          rfl
      | cons w before =>
          rw [List.cons_append, Row.ofItems, ih gs h]
          cases g.of w <;> rfl

end ReviewDesk.Json
