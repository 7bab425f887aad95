/-
Paths that are read and written.

However a path was come by, each of its segments has lost what a path encodes or is
divided by, and none means "here" or "one up".  That is all it takes for a path to be
read back from its text segment by segment: cutting at the slashes finds the segments,
encoding them again changes nothing, and none of them takes another away.
-/
import ReviewDesk.Url.Path
import ReviewDesk.Proofs.Text.Split
import ReviewDesk.Proofs.Url.Percent

namespace ReviewDesk.Url

open Text

/-! ### Segments -/

theorem pathSet_eq_false {c : Char} (h : pathSet c = false) :
    0x20 < c.toNat ∧ c ≠ '?' ∧ c ≠ '#' := by
  refine ⟨?_, ne_of_set h (by decide), ne_of_set h (by decide)⟩
  have hspace : c ≠ ' ' := ne_of_set h (by decide)
  have hne : c.toNat ≠ 0x20 := fun heq => hspace (Char.toNat_inj.mp heq)
  simp only [pathSet, controlSet, Bool.or_eq_false_iff, decide_eq_false_iff_not] at h
  omega

/-- What may not stand in a segment: what a path encodes, and what divides it. -/
def dividingSet : EncodeSet := fun c =>
  pathSet c || c == '/' || c == '\\'

theorem dividingSet_eq_false {c : Char} :
    dividingSet c = false ↔ pathSet c = false ∧ c ≠ '/' ∧ c ≠ '\\' := by
  simp only [dividingSet, Bool.or_eq_false_iff, beq_eq_false_iff_ne, ne_eq, and_assoc]

namespace Path

/-- A segment of a path as it stands in a URL. -/
structure IsSegment (s : Segment) : Prop where
  clear : Clear dividingSet s
  here : isHere s = false
  up : isUp s = false

instance (s : Segment) : Decidable (IsSegment s) :=
  decidable_of_iff (Clear dividingSet s ∧ isHere s = false ∧ isUp s = false)
    ⟨fun h => ⟨h.1, h.2.1, h.2.2⟩, fun h => ⟨h.clear, h.here, h.up⟩⟩

theorem isSegment_nil : IsSegment [] :=
  by decide

/-- A path that can have been read: there is a segment, and each can have been read. -/
structure IsPath (path : List Segment) : Prop where
  ne_nil : path ≠ []
  segments : ∀ s ∈ path, IsSegment s

instance (path : List Segment) : Decidable (IsPath path) :=
  decidable_of_iff (path ≠ [] ∧ ∀ s ∈ path, IsSegment s)
    ⟨fun h => ⟨h.1, h.2⟩, fun h => ⟨h.ne_nil, h.segments⟩⟩

theorem isPath_snoc {done : List Segment} {s : Segment} (hdone : ∀ t ∈ done, IsSegment t)
    (hs : IsSegment s) : IsPath (done ++ [s]) := by
  refine ⟨by simp, fun t ht => ?_⟩
  rcases List.mem_append.mp ht with ht | ht
  · exact hdone t ht
  · rw [List.mem_singleton] at ht
    exact ht ▸ hs

/-! ### Putting a path together -/

theorem up_prefix_self (done : List Segment) : up done <+: done := by
  unfold up
  split
  · exact List.prefix_rfl
  · exact List.dropLast_prefix done

/-- What the last segment can come to. -/
theorem finish_cases (done : List Segment) (s : Segment) :
    (isUp s = true ∧ finish done s = up done ++ [[]]) ∨
    (isHere s = true ∧ finish done s = done ++ [[]]) ∨
    (isUp s = false ∧ isHere s = false ∧ finish done s = done ++ [s]) := by
  unfold finish
  cases hup : isUp s with
  | true => simp
  | false => cases hhere : isHere s <;> simp

theorem isPath_finish {done : List Segment} {s : Segment} (hdone : ∀ t ∈ done, IsSegment t)
    (hs : Clear dividingSet s) : IsPath (finish done s) := by
  rcases finish_cases done s with ⟨-, heq⟩ | ⟨-, heq⟩ | ⟨hup, hhere, heq⟩
  · rw [heq]
    exact isPath_snoc (fun t ht => hdone t ((up_prefix_self done).mem ht)) isSegment_nil
  · rw [heq]
    exact isPath_snoc hdone isSegment_nil
  · rw [heq]
    exact isPath_snoc hdone ⟨hs, hhere, hup⟩

theorem isSegment_push {done : List Segment} {s : Segment} (hdone : ∀ t ∈ done, IsSegment t)
    (hs : Clear dividingSet s) : ∀ t ∈ push done s, IsSegment t := by
  unfold push
  split
  · exact fun t ht => hdone t ((up_prefix_self done).mem ht)
  · next hup =>
      split
      · exact hdone
      · next hhere =>
          exact (isPath_snoc hdone ⟨hs, Bool.eq_false_iff.mpr hhere, Bool.eq_false_iff.mpr hup⟩).segments

theorem isPath_ofSegments {done written : List Segment} (hdone : ∀ t ∈ done, IsSegment t)
    (hwritten : ∀ s ∈ written, Clear dividingSet s) : IsPath (ofSegments done written) := by
  fun_induction ofSegments done written with
  | case1 done => exact isPath_finish hdone isSegment_nil.clear
  | case2 done s => exact isPath_finish hdone (hwritten s (List.mem_cons_self ..))
  | case3 done s ss _ ih =>
      exact ih (isSegment_push hdone (hwritten s (List.mem_cons_self ..)))
        fun t ht => hwritten t (List.mem_cons_of_mem _ ht)

/-- Segments that mean neither "here" nor "one up" all stay. -/
theorem ofSegments_eq_append {done written : List Segment} (hne : written ≠ [])
    (h : ∀ s ∈ written, IsSegment s) : ofSegments done written = done ++ written := by
  fun_induction ofSegments done written with
  | case1 done => exact absurd rfl hne
  | case2 done s =>
      have hs := h s (List.mem_cons_self ..)
      simp [finish, hs.here, hs.up]
  | case3 done s ss hss ih =>
      have hs := h s (List.mem_cons_self ..)
      rw [ih hss fun t ht => h t (List.mem_cons_of_mem _ ht)]
      simp [push, hs.here, hs.up]

/-! ### Reading and writing -/

/-- What is read is a path, whatever it was read from. -/
theorem isPath_parse (s : List Char) : IsPath (parse s) := by
  unfold parse
  refine isPath_ofSegments (by simp) (List.forall_mem_map.mpr fun p hp c hc => ?_)
  rcases mem_percentEncode hc with hmark | ⟨hc, hset⟩
  · have hmarks : Clear dividingSet marks := by decide
    exact hmarks c hmark
  · refine dividingSet_eq_false.mpr ⟨hset, ?_, ?_⟩
    · rintro rfl
      exact sep_not_mem hp hc
    · have hslashed : c ∈ s.map fun c => if c = '\\' then '/' else c := by
        have hmem := mem_of_mem_split hp hc
        split at hmem
        · next heq =>
            rw [heq]
            exact List.mem_cons_of_mem _ hmem
        · exact hmem
      obtain ⟨d, -, rfl⟩ := List.mem_map.mp hslashed
      split
      · decide
      · assumption

theorem mem_chars {path : List Segment} {c : Char} (h : c ∈ chars path) :
    c = '/' ∨ ∃ s ∈ path, c ∈ s := by
  obtain ⟨s, hs, hc⟩ := List.mem_flatMap.mp h
  exact (List.mem_cons.mp hc).imp_right fun hc => ⟨s, hs, hc⟩

/-- A path has nothing in its text that a path encodes, and no backslash. -/
theorem IsPath.clear_chars {path : List Segment} (h : IsPath path) :
    ∀ c ∈ chars path, pathSet c = false ∧ c ≠ '\\' := by
  intro c hc
  rcases mem_chars hc with rfl | ⟨s, hs, hc⟩
  · decide
  · have hclear := dividingSet_eq_false.mp ((h.segments s hs).clear c hc)
    exact ⟨hclear.1, hclear.2.2⟩

/-- A path is read back from its text. -/
theorem parse_chars {path : List Segment} (h : IsPath path) : parse (chars path) = path := by
  have hchars : chars path = '/' :: List.intercalate ['/'] path := flatMap_sep h.ne_nil
  have hslashed : (chars path).map (fun c => if c = '\\' then '/' else c) = chars path := by
    refine (List.map_congr_left fun c hc => ?_).trans (List.map_id _)
    exact if_neg (h.clear_chars c hc).2
  have hsegments : split '/' (List.intercalate ['/'] path) = path :=
    split_intercalate h.ne_nil fun s hs hmem =>
      (dividingSet_eq_false.mp ((h.segments s hs).clear _ hmem)).2.1 rfl
  have hencoded : path.map (percentEncode pathSet) = path := by
    refine (List.map_congr_left fun s hs => ?_).trans (List.map_id _)
    exact percentEncode_of_clear fun c hc =>
      (dividingSet_eq_false.mp ((h.segments s hs).clear c hc)).1
  unfold parse
  rw [hslashed, hchars]
  simp only [hsegments, hencoded]
  rw [ofSegments_eq_append h.ne_nil h.segments, List.nil_append]

end Path

end ReviewDesk.Url
