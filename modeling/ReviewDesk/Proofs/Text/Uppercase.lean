/-
What upper case is made of.

`upper_cases` says where the upper case of a character comes from: from the table of
expansions, from a run, or from the character itself.  What is shown of upper case goes by
these three cases, and what is asked of a table is checked over its rows.  Two things are
asked: that no line feed comes of it (`lineFeed_not_mem_upper`), and that it begins with a
character that is in upper case already (`upper_eq_cons`).
-/
import ReviewDesk.Text.Uppercase

namespace ReviewDesk.Text

theorem upper_cases (c : Char) :
    (∃ ms, (c.toNat, ms) ∈ caseExpansions ∧ upper c = ms.map Char.ofNat) ∨
    (∃ r ∈ caseRuns, r.covers c.toNat = true ∧
      upper c = [Char.ofNat (c.toNat + r.shift).toNat]) ∨
    upper c = [c] := by
  cases hexpansion : caseExpansions.find? (·.1 == c.toNat) with
  | some e =>
      left
      have hkey : e.1 = c.toNat := by simpa using List.find?_some hexpansion
      refine ⟨e.2, ?_, by simp only [upper, hexpansion]⟩
      rw [← hkey]
      exact List.mem_of_find?_eq_some hexpansion
  | none =>
      right
      cases hrun : caseRuns.find? (·.covers c.toNat) with
      | some r =>
          left
          refine ⟨r, List.mem_of_find?_eq_some hrun, ?_, by simp only [upper, hexpansion, hrun]⟩
          simpa using List.find?_some hrun
      | none =>
          right
          simp only [upper, hexpansion, hrun]

/-! ### Line feeds -/

theorem ofNat_ne_lineFeed {n : Nat} (h : n ≠ 10) : Char.ofNat n ≠ '\n' := by
  intro heq
  have hcode : (Char.ofNat n).toNat = 10 := by
    rw [heq]
    rfl
  unfold Char.ofNat at hcode
  by_cases hvalid : n.isValidChar
  · rw [dif_pos hvalid] at hcode
    exact h hcode
  · rw [dif_neg hvalid] at hcode
    cases hcode

/-- No letter is expanded to anything with a line feed in it. -/
theorem expansions_above_controls : ∀ e ∈ caseExpansions, ∀ m ∈ e.2, 0x20 ≤ m := by
  decide +kernel

/-- No run ends up among the control characters. -/
theorem runs_above_controls : ∀ r ∈ caseRuns, 0x20 ≤ r.first + r.shift := by
  decide +kernel

theorem lineFeed_not_mem_upper {c : Char} (h : c ≠ '\n') : '\n' ∉ upper c := by
  rcases upper_cases c with ⟨ms, hms, hc⟩ | ⟨r, hr, hcovers, hc⟩ | hc
  · rw [hc]
    intro hmem
    obtain ⟨m, hm, heq⟩ := List.mem_map.mp hmem
    have hle : 0x20 ≤ m := expansions_above_controls _ hms m hm
    exact ofNat_ne_lineFeed (by omega) heq
  · rw [hc, List.mem_singleton]
    have hle : 0x20 ≤ (r.first : Int) + r.shift := runs_above_controls r hr
    have hfirst : r.first ≤ c.toNat := by
      simp only [CaseRun.covers, Bool.and_eq_true, decide_eq_true_eq] at hcovers
      exact hcovers.1.1
    exact (ofNat_ne_lineFeed (by omega)).symm
  · rw [hc, List.mem_singleton]
    exact h.symm

/-! ### Upper case is its own upper case

The tables say which code points have another upper case, and what it is.  That none is on
both sides is asked of two sets of code points.  Each is the bits of one number, so that two
numbers are compared and not each code point with every row.
-/

/-- The set of these numbers, as the bits of one. -/
def bits (ns : List Nat) : Nat :=
  ns.foldl (fun m n => m ||| 1 <<< n) 0

theorem testBit_bits {ns : List Nat} {n : Nat} : (bits ns).testBit n = true ↔ n ∈ ns := by
  have hfold : ∀ m : Nat, (ns.foldl (fun m n => m ||| 1 <<< n) m).testBit n = true ↔
      m.testBit n = true ∨ n ∈ ns := by
    intro m
    induction ns generalizing m with
    | nil => simp
    | cons k ns ih =>
        rw [List.foldl_cons, ih, Nat.testBit_or, Bool.or_eq_true, Nat.one_shiftLeft,
          Nat.testBit_two_pow, decide_eq_true_eq, List.mem_cons, eq_comm (a := k), or_assoc]
  rw [bits, hfold, Nat.zero_testBit]
  simp

theorem not_mem_of_bits {ns ms : List Nat} (h : bits ns &&& bits ms = 0) {n : Nat} (hn : n ∈ ns) :
    n ∉ ms := by
  intro hm
  have hboth : (bits ns &&& bits ms).testBit n = true := by
    rw [Nat.testBit_and, testBit_bits.mpr hn, testBit_bits.mpr hm]
    rfl
  rw [h, Nat.zero_testBit] at hboth
  cases hboth

/-- The code points of a run. -/
def CaseRun.points (r : CaseRun) : List Nat :=
  (List.range ((r.last - r.first) / r.step + 1)).map fun k => r.first + r.step * k

theorem CaseRun.mem_points {r : CaseRun} {n : Nat} (h : r.covers n = true) : n ∈ r.points := by
  simp only [covers, Bool.and_eq_true, decide_eq_true_eq, beq_iff_eq] at h
  obtain ⟨⟨hfirst, hlast⟩, hstep⟩ := h
  have hle : (n - r.first) / r.step ≤ (r.last - r.first) / r.step :=
    Nat.div_le_div_right (Nat.sub_le_sub_right hlast r.first)
  have hsplit := Nat.mul_div_cancel' (Nat.dvd_of_mod_eq_zero hstep)
  refine List.mem_map.mpr ⟨(n - r.first) / r.step, List.mem_range.mpr (by omega), ?_⟩
  omega

/-- The code points with another upper case. -/
def lowerPoints : List Nat :=
  caseRuns.flatMap CaseRun.points ++ caseExpansions.map Prod.fst

/-- The code points that an upper case begins with, where it is another one. -/
def upperPoints : List Nat :=
  (caseRuns.flatMap fun r => r.points.map fun (n : Nat) => (n + r.shift).toNat) ++
    caseExpansions.map fun e => e.2.headD 0

theorem upperPoints_apart : bits upperPoints &&& bits lowerPoints = 0 := by
  decide +kernel

theorem upper_eq_self {c : Char} (h : c.toNat ∉ lowerPoints) : upper c = [c] := by
  rcases upper_cases c with ⟨ms, hms, -⟩ | ⟨r, hr, hcovers, -⟩ | hc
  · exact absurd (List.mem_append_right _ (List.mem_map_of_mem hms)) h
  · refine absurd (List.mem_append_left _ ?_) h
    exact List.mem_flatMap.mpr ⟨r, hr, CaseRun.mem_points hcovers⟩
  · exact hc

theorem upper_of_mem_upperPoints {n : Nat} (h : n ∈ upperPoints) :
    upper (Char.ofNat n) = [Char.ofNat n] := by
  by_cases hvalid : n.isValidChar
  · have hcode : (Char.ofNat n).toNat = n := by
      rw [Char.ofNat, dif_pos hvalid]
      rfl
    refine upper_eq_self ?_
    rw [hcode]
    exact not_mem_of_bits upperPoints_apart h
  · have hnull : Char.ofNat n = '\x00' := by
      rw [Char.ofNat, dif_neg hvalid]
      rfl
    rw [hnull]
    decide

theorem expansions_ne_nil : ∀ e ∈ caseExpansions, e.2 ≠ [] := by
  decide +kernel

/-- An upper case begins with a character that is its own upper case. -/
theorem upper_eq_cons (c : Char) : ∃ d ds, upper c = d :: ds ∧ upper d = [d] := by
  rcases upper_cases c with ⟨ms, hms, hc⟩ | ⟨r, hr, hcovers, hc⟩ | hc
  · obtain ⟨m, ms, rfl⟩ := List.exists_cons_of_ne_nil (expansions_ne_nil _ hms)
    refine ⟨Char.ofNat m, ms.map Char.ofNat, hc, upper_of_mem_upperPoints ?_⟩
    exact List.mem_append_right _ (List.mem_map_of_mem hms)
  · refine ⟨_, [], hc, upper_of_mem_upperPoints (List.mem_append_left _ ?_)⟩
    exact List.mem_flatMap.mpr ⟨r, hr, List.mem_map_of_mem (CaseRun.mem_points hcovers)⟩
  · exact ⟨c, [], hc, hc⟩

end ReviewDesk.Text
