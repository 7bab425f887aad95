/-
Appending to a path.

A piece that names something becomes one segment behind what is kept of the path, and
decoding that segment gives the piece back.  What makes this so is that a percent sign in
a piece is encoded as well: no encoded piece can be a way to write one dot or two, unless
the piece was that itself.

Tabs and line ends are dropped from a piece only after it was found to be no dots.  So a
piece can still turn out to mean "one up".  As the first piece it takes away a segment of
the path; after another one it only takes away what was appended.
-/
import ReviewDesk.Proofs.Url.Path

namespace ReviewDesk.Url.Path

open Text

variable {path done kept : List Segment} {p s : List Char}

theorem chars_append (path done : List Segment) :
    chars (path ++ done) = chars path ++ chars done :=
  List.flatMap_append

/-! ### Pieces -/

/-- A piece that names something. -/
structure IsName (p : List Char) : Prop where
  ne_nil : p ≠ []
  ne_here : p ≠ ['.']
  ne_up : p ≠ ['.', '.']

theorem mem_pieces : p ∈ pieces s ↔ p ∈ split '/' s ∧ IsName p := by
  simp only [pieces, List.mem_filter, Bool.and_eq_true, bne_iff_ne, ne_eq, Bool.not_eq_true',
    List.isEmpty_eq_false_iff, and_congr_right_iff]
  exact fun _ => ⟨fun h => ⟨h.1.1, h.1.2, h.2⟩, fun h => ⟨⟨h.ne_nil, h.ne_here⟩, h.ne_up⟩⟩

theorem pieces_append (s t : List Char) : pieces (s ++ '/' :: t) = pieces s ++ pieces t := by
  simp only [pieces, split_append_sep, List.filter_append]

/-- A piece as a URL has it: tabs and line ends do not count. -/
def clean (p : List Char) : List Char :=
  p.filter (!isDropped ·)

theorem clean_eq_self (h : ∀ c ∈ p, isDropped c = false) : clean p = p :=
  List.filter_eq_self.mpr fun c hc => by simp [h c hc]

/-- Without tabs and line ends in the text, its pieces are what a URL has them as. -/
theorem clean_piece (hs : ∀ c ∈ s, isDropped c = false) (hp : p ∈ pieces s) : clean p = p :=
  clean_eq_self fun c hc => hs c (mem_of_mem_split (mem_pieces.mp hp).1 hc)

/-! ### Encoded pieces -/

theorem percentDecode_segment (p : List Char) :
    percentDecode (percentEncode segmentSet p) = encode p :=
  percentDecode_percentEncode rfl p

theorem clear_segment (p : List Char) : Clear dividingSet (percentEncode segmentSet p) := by
  intro c hc
  rcases mem_percentEncode hc with hmark | ⟨-, hset⟩
  · have hmarks : Clear dividingSet marks := by decide
    exact hmarks c hmark
  · simp only [segmentSet, Bool.or_eq_false_iff, beq_eq_false_iff_ne] at hset
    exact dividingSet_eq_false.mpr ⟨hset.1.1.1, hset.1.1.2, hset.2⟩

theorem isHere_segment : isHere (percentEncode segmentSet p) = true ↔ p = ['.'] := by
  constructor
  · intro h
    have hdecoded : ∀ a ∈ dotted, percentDecode a = encode ['.'] := by decide
    have hdot := hdecoded _ (List.contains_iff_mem.mp h)
    rw [percentDecode_segment] at hdot
    exact encode_inj hdot
  · rintro rfl
    decide

theorem isUp_segment : isUp (percentEncode segmentSet p) = true ↔ p = ['.', '.'] := by
  constructor
  · intro h
    have hdecoded : ∀ a ∈ dotted, ∀ b ∈ dotted, percentDecode (a ++ b) = encode ['.', '.'] := by
      decide
    simp only [isUp, List.any_eq_true, beq_iff_eq] at h
    obtain ⟨a, ha, b, hb, heq⟩ := h
    have hdots := hdecoded a ha b hb
    rw [← heq, percentDecode_segment] at hdots
    exact encode_inj hdots
  · rintro rfl
    decide

theorem isSegment_name (h : IsName p) : IsSegment (percentEncode segmentSet p) where
  clear := clear_segment p
  here := Bool.eq_false_iff.mpr (mt isHere_segment.mp h.ne_here)
  up := Bool.eq_false_iff.mpr (mt isUp_segment.mp h.ne_up)

/-! ### Appending pieces -/

/-- The segments that a piece is put behind: of the root, none. -/
def opened (path : List Segment) : List Segment :=
  if path = root then [] else path

/-- What is kept of a path when something is appended to it. -/
def stem (path : List Segment) : List Segment :=
  opened (trimmed path)

theorem append_eq (path : List Segment) (p : List Char) :
    append path p = finish (opened path) (percentEncode segmentSet (clean p)) :=
  rfl

theorem opened_prefix_self (path : List Segment) : opened path <+: path := by
  unfold opened
  split
  · exact List.nil_prefix
  · exact List.prefix_rfl

/-- Only an empty segment can be the root. -/
theorem opened_snoc {e : Segment} (h : e ≠ []) : opened (done ++ [e]) = done ++ [e] := by
  refine if_neg fun hroot => h ?_
  have hlast := congrArg List.getLast? hroot
  simpa [root] using hlast

theorem append_name (h : IsName (clean p)) :
    append path p = opened path ++ [percentEncode segmentSet (clean p)] := by
  have hsegment := isSegment_name h
  rcases finish_cases (opened path) (percentEncode segmentSet (clean p))
    with ⟨hup, -⟩ | ⟨hhere, -⟩ | ⟨-, -, heq⟩
  · rw [hsegment.up] at hup
    contradiction
  · rw [hsegment.here] at hhere
    contradiction
  · exact heq

/-- Names are put behind a path one by one. -/
theorem foldl_append_names {ps : List (List Char)} (hne : ps ≠ [])
    (h : ∀ p ∈ ps, IsName (clean p)) :
    ps.foldl append path = opened path ++ ps.map fun p => percentEncode segmentSet (clean p) := by
  induction ps generalizing path with
  | nil => exact absurd rfl hne
  | cons p ps ih =>
      have hp := h p (List.mem_cons_self ..)
      rw [List.foldl_cons, append_name hp, List.map_cons]
      cases ps with
      | nil => rfl
      | cons q qs =>
          -- Behind a name the path is not the root, so nothing of it is opened again.
          rw [ih (List.cons_ne_nil _ _) fun r hr => h r (List.mem_cons_of_mem _ hr),
            opened_snoc (percentEncode_ne_nil hp.ne_nil), List.append_assoc, List.singleton_append]

theorem join_of_pieces_nil (h : pieces s = []) : join path s = trimmed path := by
  rw [join, h, List.foldl_nil]

/-- Without tabs and line ends, each piece becomes one segment behind the path. -/
theorem join_of_pieces (hs : ∀ c ∈ s, isDropped c = false) (h : pieces s ≠ []) :
    join path s = stem path ++ (pieces s).map (percentEncode segmentSet) := by
  rw [join, foldl_append_names h fun p hp => ?_]
  · exact congrArg _ (List.map_congr_left fun p hp => by rw [clean_piece hs hp])
  · rw [clean_piece hs hp]
    exact (mem_pieces.mp hp).2

theorem trimmed_snoc {e : Segment} (h : e ≠ []) : trimmed (done ++ [e]) = done ++ [e] := by
  simp [trimmed, h]

theorem trimmed_snoc_nil (h : done ≠ []) : trimmed (done ++ [[]]) = done := by
  simp [trimmed, h]

/-- Behind at least one piece, joining goes on where it stopped. -/
theorem join_append (hs : ∀ c ∈ s, isDropped c = false) (h : pieces s ≠ []) (t : List Char) :
    join path (s ++ '/' :: t) = join (join path s) t := by
  have hlast := List.dropLast_concat_getLast h
  have hname : IsName ((pieces s).getLast h) := (mem_pieces.mp (List.getLast_mem h)).2
  have htrimmed : trimmed (join path s) = join path s := by
    rw [join_of_pieces hs h, ← hlast, List.map_append, ← List.append_assoc, List.map_singleton]
    exact trimmed_snoc (percentEncode_ne_nil hname.ne_nil)
  calc join path (s ++ '/' :: t)
    _ = (pieces t).foldl append (join path s) := by
        rw [join, pieces_append, List.foldl_append, ← join]
    _ = (pieces t).foldl append (trimmed (join path s)) := by
        rw [htrimmed]
    _ = join (join path s) t := rfl

/-- A slash at the end of a path that has none makes no difference. -/
theorem join_snoc_nil (hne : path ≠ []) (h : path.getLast? ≠ some []) (s : List Char) :
    join (path ++ [[]]) s = join path s := by
  have hplain : trimmed path = path := if_neg fun hends => h hends.2
  rw [join, join, trimmed_snoc_nil hne, hplain]

/-! ### Paths stay paths -/

theorem isPath_trimmed (h : IsPath path) : IsPath (trimmed path) := by
  unfold trimmed
  split
  · next hends =>
      refine ⟨fun hnil => hends.1 ?_, fun t ht => h.segments t (List.dropLast_subset _ ht)⟩
      have hlength := congrArg List.length hnil
      have hpos := List.length_pos_iff.mpr h.ne_nil
      rw [List.length_dropLast, List.length_nil] at hlength
      omega
  · exact h

theorem isPath_append (h : IsPath path) (p : List Char) : IsPath (append path p) :=
  isPath_finish (fun t ht => h.segments t ((opened_prefix_self path).mem ht)) (clear_segment _)

theorem isPath_foldl_append (h : IsPath path) (ps : List (List Char)) :
    IsPath (ps.foldl append path) := by
  induction ps generalizing path with
  | nil => exact h
  | cons p ps ih => exact ih (isPath_append h p)

theorem isPath_join (h : IsPath path) (s : List Char) : IsPath (join path s) :=
  isPath_foldl_append (isPath_trimmed h) (pieces s)

/-! ### The text of what is kept -/

/-- A written path less one slash at its end. -/
def lessSlash (s : List Char) : List Char :=
  if s.getLast? = some '/' then s.dropLast else s

/-- What is kept of a written path when something is appended to it: a slash that is left
alone counts as nothing. -/
def keptChars (s : List Char) : List Char :=
  if lessSlash s = ['/'] then [] else lessSlash s

theorem chars_eq_slash : chars path = ['/'] ↔ path = root := by
  cases path with
  | nil => simp [chars, root]
  | cons t ts => cases ts <;> simp [chars, root]

theorem chars_eq_nil : chars path = [] ↔ path = [] := by
  cases path <;> simp [chars]

theorem chars_snoc (done : List Segment) (e : Segment) :
    chars (done ++ [e]) = chars done ++ '/' :: e := by
  rw [chars_append]
  simp [chars]

/-- Written, the path less an empty segment at its end is the text less a slash. -/
theorem lessSlash_chars (h : IsPath path) :
    lessSlash (chars path) = if path = root then [] else chars (trimmed path) := by
  obtain ⟨done, e, rfl⟩ : ∃ done e, path = done ++ [e] :=
    ⟨_, _, (List.dropLast_concat_getLast h.ne_nil).symm⟩
  rw [lessSlash, chars_snoc]
  -- The text ends in a slash exactly if the last segment is empty.
  cases e with
  | nil =>
      cases done with
      | nil => simp [chars, root]
      | cons t ts =>
          rw [trimmed_snoc_nil (List.cons_ne_nil _ _)]
          simp [root]
  | cons c cs =>
      have hslash : ((c :: cs).getLast?) ≠ some '/' := by
        intro hlast
        have hmem := List.mem_of_getLast? hlast
        have hsegment := h.segments (c :: cs) (by simp)
        exact (dividingSet_eq_false.mp (hsegment.clear _ hmem)).2.1 rfl
      have hroot : done ++ [c :: cs] ≠ root := by
        intro hroot
        have hlast := congrArg List.getLast? hroot
        simp [root] at hlast
      rw [if_neg hroot, trimmed_snoc (List.cons_ne_nil _ _), chars_snoc, List.getLast?_append]
      simp [List.getLast?_cons_cons, hslash]

theorem chars_stem (h : IsPath path) : chars (stem path) = keptChars (chars path) := by
  rw [keptChars, lessSlash_chars h]
  by_cases hroot : path = root
  · subst hroot
    decide
  · simp only [if_neg hroot, chars_eq_slash, stem, opened]
    split <;> rfl

/-- The text that joining comes to. -/
theorem chars_join (h : IsPath path) (hs : ∀ c ∈ s, isDropped c = false) :
    chars (join path s) =
      let text := keptChars (chars path)
        ++ (pieces s).flatMap fun p => '/' :: percentEncode segmentSet p
      if text = [] then ['/'] else text := by
  rw [← chars_stem h]
  by_cases hpieces : pieces s = []
  · rw [join_of_pieces_nil hpieces, hpieces, List.flatMap_nil, List.append_nil, stem, opened]
    split
    · next hroot =>
        rw [hroot]
        rfl
    · exact (if_neg (mt chars_eq_nil.mp (isPath_trimmed h).ne_nil)).symm
  · have htext : chars (join path s) = chars (stem path)
        ++ (pieces s).flatMap fun p => '/' :: percentEncode segmentSet p := by
      rw [join_of_pieces hs hpieces, chars_append]
      exact congrArg (chars (stem path) ++ ·) (List.flatMap_map ..)
    rw [← htext]
    exact (if_neg (mt chars_eq_nil.mp (isPath_join h s).ne_nil)).symm

/-! ### What stays in front -/

/-- A piece that is no dots itself and yet means "one up" to a URL. -/
def Climbs (p : List Char) : Prop :=
  clean p = ['.', '.']

instance (p : List Char) : Decidable (Climbs p) :=
  inferInstanceAs (Decidable (clean p = ['.', '.']))

/-- Only a tab or an end of line makes a piece climb. -/
theorem Climbs.exists_dropped (h : Climbs p) (hp : p ∈ pieces s) :
    ∃ c ∈ p, isDropped c = true := by
  by_cases hplain : ∀ c ∈ p, isDropped c = false
  · exact absurd ((clean_eq_self hplain).symm.trans h) (mem_pieces.mp hp).2.ne_up
  · simpa using hplain

/-- The path has these segments in front, and then at least one more. -/
def Beyond (kept path : List Segment) : Prop :=
  ∃ rest, rest ≠ [] ∧ path = kept ++ rest

theorem Beyond.isPrefix (h : Beyond kept path) : kept <+: path := by
  obtain ⟨rest, -, rfl⟩ := h
  exact List.prefix_append kept rest

theorem beyond_snoc (h : kept <+: done) (e : Segment) : Beyond kept (done ++ [e]) := by
  obtain ⟨rest, rfl⟩ := h
  exact ⟨rest ++ [e], by simp, List.append_assoc ..⟩

/-- Only the last segment can be taken away, and that is not one of those in front. -/
theorem Beyond.prefix_up (h : Beyond kept path) : kept <+: up path := by
  obtain ⟨rest, hne, rfl⟩ := h
  unfold up
  split
  · exact List.prefix_append kept rest
  · rw [List.dropLast_append_of_ne_nil hne]
    exact List.prefix_append kept rest.dropLast

theorem beyond_finish (hup : kept <+: up done) (e : Segment) : Beyond kept (finish done e) := by
  have hdone : kept <+: done := hup.trans (up_prefix_self done)
  rcases finish_cases done e with ⟨-, heq⟩ | ⟨-, heq⟩ | ⟨-, -, heq⟩ <;> rw [heq]
  · exact beyond_snoc hup []
  · exact beyond_snoc hdone []
  · exact beyond_snoc hdone e

/-- A piece leaves in front what is in front and is not the last. -/
theorem Beyond.append (h : Beyond kept path) (p : List Char) : Beyond kept (append path p) := by
  rw [append_eq]
  refine beyond_finish ?_ _
  unfold opened
  split
  · next hroot =>
      obtain ⟨rest, hne, rfl⟩ := h
      have hkept : kept = [] := by
        cases kept with
        | nil => rfl
        | cons k ks => simp [root, hne] at hroot
      rw [hkept]
      exact List.nil_prefix
  · exact h.prefix_up

theorem Beyond.foldl_append (h : Beyond kept path) (ps : List (List Char)) :
    Beyond kept (ps.foldl Path.append path) := by
  induction ps generalizing path with
  | nil => exact h
  | cons p ps ih => exact ih (h.append p)

/-- A piece that does not climb leaves the whole path in front. -/
theorem beyond_append (h : ¬ Climbs p) : Beyond (opened path) (append path p) := by
  rw [append_eq]
  rcases finish_cases (opened path) (percentEncode segmentSet (clean p))
    with ⟨hup, -⟩ | ⟨-, heq⟩ | ⟨-, -, heq⟩
  · exact absurd (isUp_segment.mp hup) h
  · rw [heq]
    exact beyond_snoc List.prefix_rfl []
  · rw [heq]
    exact beyond_snoc List.prefix_rfl _

/-- A piece that climbs puts an empty segment in place of the last one. -/
theorem append_climbing (h : Climbs p) : append path p = up (opened path) ++ [[]] := by
  have hup : isUp (percentEncode segmentSet (clean p)) = true := isUp_segment.mpr h
  rw [append_eq, finish, if_pos hup]

/-- All that is kept of a path stays in front, unless the first piece climbs. -/
theorem stem_prefix_join (h : ∀ p ∈ (pieces s).head?, ¬ Climbs p) : stem path <+: join path s := by
  unfold join
  cases hpieces : pieces s with
  | nil => exact opened_prefix_self (trimmed path)
  | cons p ps =>
      have hp : ¬ Climbs p := h p (by rw [hpieces]; rfl)
      exact ((beyond_append hp).foldl_append ps).isPrefix

theorem chars_prefix (h : kept <+: path) : chars kept <+: chars path := by
  obtain ⟨rest, rfl⟩ := h
  rw [chars_append]
  exact List.prefix_append ..

/-- The same in writing: the text of the path, less a slash at its end, stays in front. -/
theorem lessSlash_prefix_join (hpath : IsPath path) (h : ∀ p ∈ (pieces s).head?, ¬ Climbs p) :
    lessSlash (chars path) <+: chars (join path s) := by
  have hkept : chars (stem path) <+: chars (join path s) := chars_prefix (stem_prefix_join h)
  rw [chars_stem hpath, keptChars] at hkept
  split at hkept
  · next hslash =>
      obtain ⟨t, ts, hjoin⟩ := List.exists_cons_of_ne_nil (isPath_join hpath s).ne_nil
      rw [hslash, hjoin]
      exact ⟨t ++ chars ts, by simp [chars]⟩
  · exact hkept

/-- If the first piece climbs, the last segment that would be kept goes, and no other. -/
theorem join_climbing {ps : List (List Char)} (hpieces : pieces s = p :: ps) (h : Climbs p) :
    join path s = ps.foldl append (up (stem path) ++ [[]]) := by
  rw [join, hpieces, List.foldl_cons, append_climbing h, stem]

theorem up_stem_prefix_join (path : List Segment) (s : List Char) :
    up (stem path) <+: join path s := by
  by_cases h : ∀ p ∈ (pieces s).head?, ¬ Climbs p
  · exact (up_prefix_self _).trans (stem_prefix_join h)
  · obtain ⟨p, hp, hclimbs⟩ : ∃ p ∈ (pieces s).head?, Climbs p := by simpa using h
    obtain ⟨ps, hpieces⟩ := List.head?_eq_some_iff.mp hp
    rw [join_climbing hpieces hclimbs]
    exact ((beyond_snoc List.prefix_rfl []).foldl_append ps).isPrefix

end ReviewDesk.Url.Path
