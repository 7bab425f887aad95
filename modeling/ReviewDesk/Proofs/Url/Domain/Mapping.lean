/-
What mapping and composing leave of a name in ASCII.

A character that mapping gives is not mapped any further, and neither is what it is made
of: no capital letter comes back out of a small letter with an accent.  Both are facts
about the tables, checked entry by entry.  Because joining gives no ASCII character that was
not there before, the ASCII characters of a composed name are mapped to themselves.

The table of the characters that stay is asked too often for its ranges to be gone through
each time.  For the checks it is one number, with a bit for every character that stays.
-/
import Mathlib.Tactic.SplitIfs
import ReviewDesk.Url.Domain.Mapping
import ReviewDesk.Url.Domain.Composition
import ReviewDesk.Proofs.Url.IPv4

namespace ReviewDesk.Url.Domain

/-! ### Sets of characters as numbers -/

/-- The number that has the bits of these ranges. -/
def mask : Text.Ranges → Nat
  | [] => 0
  | r :: rs => ((1 <<< (r.2 + 1 - r.1)) - 1) <<< r.1 ||| mask rs

theorem testBit_mask (rs : Text.Ranges) (n : Nat) :
    (mask rs).testBit n = rs.any fun r => r.1 ≤ n && n ≤ r.2 := by
  induction rs with
  | nil => simp [mask]
  | cons r rs ih =>
      have hrange : (((1 <<< (r.2 + 1 - r.1)) - 1) <<< r.1).testBit n
          = (decide (r.1 ≤ n) && decide (n ≤ r.2)) := by
        rw [Nat.testBit_shiftLeft, Nat.one_shiftLeft, Nat.testBit_two_pow_sub_one,
          ← Bool.decide_and, ← Bool.decide_and, decide_eq_decide]
        omega
      rw [mask, Nat.testBit_or, hrange, ih, List.any_cons]

theorem contains_eq_testBit (rs : Text.Ranges) (c : Char) :
    rs.contains c = (mask rs).testBit c.toNat :=
  (testBit_mask rs c.toNat).symm

/-! ### Characters that stay -/

/-- A code point of a character that mapping leaves as it is, given those outside ASCII. -/
def stays (valid n : Nat) : Bool :=
  if n < 0x80 then n < 0x41 || 0x5A < n else valid.testBit n

/-- The bits of the characters outside ASCII that stay. -/
def validMask : Nat := mask validRanges

theorem mapChar?_of_stays {c : Char} (h : stays validMask c.toNat = true) :
    mapChar? c = some [c] := by
  unfold stays at h
  split at h
  · next hascii =>
      have all : ∀ n < 0x80, (n < 0x41 || 0x5A < n) = true → (Char.ofNat n).toLower = Char.ofNat n := by
        decide
      have hlower := all c.toNat hascii h
      rw [Char.ofNat_toNat] at hlower
      rw [mapChar?, if_pos hascii, hlower]
  · next hascii =>
      rw [validMask, ← contains_eq_testBit] at h
      rw [mapChar?, if_neg hascii, if_pos h]

theorem toNat_ofNat_cases (n : Nat) : (Char.ofNat n).toNat = n ∨ (Char.ofNat n).toNat = 0 := by
  by_cases h : n.isValidChar
  · exact .inl (by rw [Char.ofNat, dif_pos h]; rfl)
  · exact .inr (by rw [Char.ofNat, dif_neg h]; rfl)

theorem stays_ofNat {valid n : Nat} (h : stays valid n = true) :
    stays valid (Char.ofNat n).toNat = true := by
  rcases toNat_ofNat_cases n with heq | heq
  · rw [heq]
    exact h
  · rw [heq]
    rfl

/-! ### What mapping gives -/

/-- What the entries of the two tables of replacements lead to. -/
def targets : List Nat → List Nat
  | [_, target] => [target]
  | [first, last, step, target] =>
    (List.range ((last - first) / step + 1)).map fun i => target + i * step
  | _ => []

theorem replaced_stays : (replacedEntries.all fun e => (targets e).all (stays validMask)) = true := by
  decide +kernel

theorem expanded_stays : (expandedEntries.all fun e => e.tail.all (stays validMask)) = true := by
  decide +kernel

theorem mem_targets {n m : Nat} {e : List Nat} (h : replaced? n e = some m) : m ∈ targets e := by
  unfold replaced? at h
  split at h
  · obtain ⟨-, rfl⟩ := Option.ite_none_right_eq_some.mp h |>.imp_right Option.some.inj
    exact List.mem_singleton.mpr rfl
  · next first last step target =>
      obtain ⟨⟨hfirst, hlast, hstep⟩, rfl⟩ :=
        Option.ite_none_right_eq_some.mp h |>.imp_right Option.some.inj
      refine List.mem_map.mpr ⟨(n - first) / step, List.mem_range.mpr ?_, ?_⟩
      · exact Nat.lt_succ_of_le (Nat.div_le_div_right (by omega))
      · rw [Nat.div_mul_cancel (Nat.dvd_of_mod_eq_zero hstep)]
  · contradiction

theorem stays_toLower {c : Char} (h : c.toNat < 0x80) (valid : Nat) :
    stays valid c.toLower.toNat = true := by
  have all : ∀ n < 0x80, (Char.ofNat n).toLower.toNat < 0x80 ∧
      ((Char.ofNat n).toLower.toNat < 0x41 || 0x5A < (Char.ofNat n).toLower.toNat) = true := by
    decide
  obtain ⟨hascii, hlower⟩ := all c.toNat h
  rw [Char.ofNat_toNat] at hascii hlower
  rw [stays, if_pos hascii]
  exact hlower

theorem stays_replaced {n m : Nat} (h : replacedEntries.findSome? (replaced? n) = some m) :
    stays validMask (Char.ofNat m).toNat = true := by
  obtain ⟨e, he, hreplaced⟩ := List.exists_of_findSome?_eq_some h
  have hentry := List.all_eq_true.mp replaced_stays e he
  exact stays_ofNat (List.all_eq_true.mp hentry m (mem_targets hreplaced))

theorem stays_expanded {e : List Nat} (he : e ∈ expandedEntries) {d : Char}
    (hd : d ∈ e.tail.map Char.ofNat) : stays validMask d.toNat = true := by
  obtain ⟨n, hn, rfl⟩ := List.mem_map.mp hd
  have hentry := List.all_eq_true.mp expanded_stays e he
  exact stays_ofNat (List.all_eq_true.mp hentry n hn)

/-- A character that mapping gives stays. -/
theorem stays_of_mapChar? {c d : Char} {ds : List Char} (h : mapChar? c = some ds) (hd : d ∈ ds) :
    stays validMask d.toNat = true := by
  unfold mapChar? at h
  split_ifs at h with hascii hvalid
  · obtain rfl := Option.some.inj h
    obtain rfl := List.mem_singleton.mp hd
    exact stays_toLower hascii validMask
  · obtain rfl := Option.some.inj h
    obtain rfl := List.mem_singleton.mp hd
    rw [stays, if_neg hascii, validMask, ← contains_eq_testBit]
    exact hvalid
  · obtain rfl := Option.some.inj h
    contradiction
  · split at h
    · next n hn =>
        obtain rfl := Option.some.inj h
        obtain rfl := List.mem_singleton.mp hd
        exact stays_replaced hn
    · obtain ⟨e, he, rfl⟩ := Option.map_eq_some_iff.mp h
      exact stays_expanded (List.mem_of_find?_eq_some he) hd

/-! ### What characters are made of -/

/-- In ASCII only if mapping leaves it. -/
def IsLower (c : Char) : Prop :=
  c.toNat < 0x80 → stays 0 c.toNat = true

theorem isLower_of_stays {c : Char} (h : stays validMask c.toNat = true) : IsLower c := by
  intro hascii
  rw [stays, if_pos hascii] at h ⊢
  exact h

theorem isLower_ofNat {n : Nat} (h : 0x80 ≤ n) : IsLower (Char.ofNat n) := by
  intro hascii
  rcases toNat_ofNat_cases n with heq | heq
  · omega
  · rw [heq]
    rfl

/-- Of a pair that stays, the first part stays, and the second one is not in ASCII.  No pair
is in ASCII itself. -/
def pairStays (valid : Nat) : List Nat → Bool
  | [n, a, b] => 0x80 ≤ n && (!stays valid n || (stays valid a && 0x80 ≤ b))
  | _ => false

theorem pairs_stay : pairEntries.all (pairStays validMask) = true := by
  decide +kernel

theorem isLower_letter {base : Nat} (h : 0x80 ≤ base) (n : Nat) :
    IsLower (Char.ofNat (base + n)) :=
  isLower_ofNat (Nat.le_trans h (Nat.le_add_right base n))

theorem isLower_of_mem_syllable? {n : Nat} {cs : List Char} (h : syllable? n = some cs) :
    ∀ c ∈ cs, IsLower c := by
  unfold syllable? at h
  dsimp only at h
  split at h
  · split at h
    · obtain rfl := Option.some.inj h
      exact List.forall_mem_cons.mpr ⟨isLower_letter (by decide) _,
        List.forall_mem_singleton.mpr (isLower_letter (by decide) _)⟩
    · obtain rfl := Option.some.inj h
      exact List.forall_mem_cons.mpr ⟨isLower_letter (by decide) _,
        List.forall_mem_cons.mpr ⟨isLower_letter (by decide) _,
          List.forall_mem_singleton.mpr (isLower_letter (by decide) _)⟩⟩
  · contradiction

/-- A character that stays is not made of capital letters. -/
theorem isLower_of_mem_partsOf {depth : Nat} {c d : Char} (h : stays validMask c.toNat = true)
    (hd : d ∈ partsOf depth c) : IsLower d := by
  induction depth generalizing c with
  | zero =>
      obtain rfl := List.mem_singleton.mp hd
      exact isLower_of_stays h
  | succ depth ih =>
      unfold partsOf at hd
      split at hd
      · next cs hcs => exact isLower_of_mem_syllable? hcs d hd
      · split at hd
        · next n a b hpair =>
            have hn : n = c.toNat := by simpa using List.find?_some hpair
            have hstays := List.all_eq_true.mp pairs_stay _ (List.mem_of_find?_eq_some hpair)
            simp only [pairStays, hn, h, Bool.not_true, Bool.false_or, Bool.and_eq_true,
              decide_eq_true_eq] at hstays
            rcases List.mem_append.mp hd with hd | hd
            · exact ih (stays_ofNat hstays.2.1) hd
            · obtain rfl := List.mem_singleton.mp hd
              exact isLower_ofNat hstays.2.2
        · obtain rfl := List.mem_singleton.mp hd
          exact isLower_of_stays h

/-! ### Joining -/

theorem mem_insertMark {c d : Char} {ds : List Char} :
    d ∈ insertMark c ds ↔ d = c ∨ d ∈ ds := by
  induction ds with
  | nil => simp [insertMark]
  | cons a ds ih =>
      unfold insertMark
      split
      · rw [List.mem_cons, ih, List.mem_cons]
        exact or_left_comm
      · exact List.mem_cons

theorem mem_foldl_insertMark {d : Char} {cs before : List Char} :
    d ∈ cs.foldl (fun before c => insertMark c before) before ↔ d ∈ cs ∨ d ∈ before := by
  induction cs generalizing before with
  | nil => simp
  | cons c cs ih =>
      rw [List.foldl_cons, ih, mem_insertMark, List.mem_cons]
      exact or_left_comm.trans or_assoc.symm

theorem mem_ordered {d : Char} {cs : List Char} : d ∈ ordered cs ↔ d ∈ cs := by
  rw [ordered, List.mem_reverse, mem_foldl_insertMark]
  simp

theorem isLower_join? {a b c : Char} (h : join? a b = some c) : IsLower c := by
  unfold join? at h
  split at h
  · next c' hjoined =>
      obtain rfl := Option.some.inj h
      unfold joinSyllable? at hjoined
      split at hjoined
      · obtain rfl := Option.some.inj hjoined
        exact isLower_ofNat (by omega)
      · obtain ⟨hrange, hjoined⟩ := Option.ite_none_right_eq_some.mp hjoined
        obtain rfl := Option.some.inj hjoined
        exact isLower_ofNat (by omega)
  · obtain ⟨e, he, hhead⟩ := Option.bind_eq_some_iff.mp h
    obtain ⟨n, hn, rfl⟩ := Option.map_eq_some_iff.mp hhead
    have hpair := List.all_eq_true.mp pairs_stay e (List.mem_of_find?_eq_some he)
    unfold pairStays at hpair
    split at hpair
    · simp only [List.head?_cons, Option.some.injEq] at hn
      subst hn
      simp only [Bool.and_eq_true, decide_eq_true_eq] at hpair
      exact isLower_ofNat hpair.1
    · contradiction

theorem mem_flush {c : Char} {j : Joining} :
    c ∈ j.flush ↔ c ∈ j.marks ∨ c ∈ j.starter ∨ c ∈ j.finished := by
  simp [Joining.flush]

/-- Everything in a sequence being joined is in small letters. -/
theorem isLower_push {j : Joining} {c : Char} (h : ∀ d ∈ j.flush, IsLower d) (hc : IsLower c) :
    ∀ d ∈ (j.push c).flush, IsLower d := by
  intro d hd
  unfold Joining.push at hd
  dsimp only at hd
  split at hd
  · next s hs =>
      -- Nothing but the starter changes.
      rw [mem_flush] at hd
      rcases hd with hd | hd | hd
      · exact h d (mem_flush.mpr (.inl hd))
      · obtain rfl := Option.some.inj hd
        obtain ⟨-, hs⟩ := Option.ite_none_left_eq_some.mp hs
        obtain ⟨a, -, hjoin⟩ := Option.bind_eq_some_iff.mp hs
        exact isLower_join? hjoin
      · exact h d (mem_flush.mpr (.inr (.inr hd)))
  · split at hd
    · rcases mem_flush.mp hd with hd | hd | hd
      · contradiction
      · obtain rfl := Option.some.inj hd
        exact hc
      · exact h d hd
    · rcases mem_flush.mp hd with hd | hd
      · rcases List.mem_cons.mp hd with rfl | hd
        · exact hc
        · exact h d (mem_flush.mpr (.inl hd))
      · exact h d (mem_flush.mpr (.inr hd))

theorem isLower_foldl_push {cs : List Char} {j : Joining} (h : ∀ d ∈ j.flush, IsLower d)
    (hcs : ∀ c ∈ cs, IsLower c) : ∀ d ∈ (cs.foldl Joining.push j).flush, IsLower d := by
  induction cs generalizing j with
  | nil => exact h
  | cons c cs ih =>
      obtain ⟨hc, hcs⟩ := List.forall_mem_cons.mp hcs
      exact ih (isLower_push h hc) hcs

theorem isLower_compose {cs : List Char} (h : ∀ c ∈ cs, stays validMask c.toNat = true) :
    ∀ d ∈ compose cs, IsLower d := by
  unfold compose
  split
  · exact fun d hd => isLower_of_stays (h d hd)
  · intro d hd
    refine isLower_foldl_push (by simp [Joining.flush]) (fun c hc => ?_) d (List.mem_reverse.mp hd)
    obtain ⟨a, ha, hc⟩ := List.mem_flatMap.mp (mem_ordered.mp hc)
    exact isLower_of_mem_partsOf (h a ha) hc

/-- What is in ASCII once a name is mapped and composed is mapped to itself. -/
theorem isLower_of_mapped {cs : List Char} {mapped : List (List Char)}
    (h : cs.mapM mapChar? = some mapped) : ∀ c ∈ compose mapped.flatten, IsLower c := by
  refine isLower_compose fun c hc => ?_
  obtain ⟨ds, hds, hc⟩ := List.mem_flatten.mp hc
  obtain ⟨d, -, hd⟩ := (mapM_eq_some h).2 ds hds
  exact stays_of_mapChar? hd hc

end ReviewDesk.Url.Domain
