/-
The lines of a sheet.

The text of a sheet is written piece by piece.  Here it is taken as lines, `Sheet.rows`,
and each kind of line gives back what it was made of: the score its number and its bucket,
a suggestion its number and its text, a row of the grid its two figures.  The lines above
the review and those below it give back the parts they come from, since a section that is
left out leaves no line.
-/
import ReviewDesk.Proofs.Display.Lines

namespace ReviewDesk.Display

/-! ### The lines of a sheet -/

/-- The line of the score. -/
def ScoreCard.words (c : ScoreCard) : List Char :=
  "Code Quality Score: ".toList ++ Decimal.digits c.score.toNat
    ++ "/100 (".toList ++ c.bucket.name.toList ++ [')']

/-- The line of a suggestion, with its number. -/
def Suggestion.words (s : Suggestion) : List Char :=
  [' ', ' '] ++ Decimal.digits s.index ++ ['.', ' '] ++ s.text.toList

/-- The line of a row of a grid. -/
def rowWords (row : List Cell) : List Char :=
  [' ', ' '] ++ List.intercalate (List.replicate 4 ' ') (row.map Cell.chars)

/-- The lines of the score, with the empty one before it. -/
def scoreRows : Option ScoreCard → List (List Char)
  | none => []
  | some c => [[], c.words]

def languageRows : Option String → List (List Char)
  | none => []
  | some l => ["Language: ".toList ++ l.toList]

def headingWords (count : Nat) : List Char :=
  "Suggestions (".toList ++ Decimal.digits count ++ [')']

/-- The lines of the suggestions, with the empty one and the heading before them. -/
def suggestionRows : List Suggestion → List (List Char)
  | [] => []
  | s :: ss => [] :: headingWords (ss.length + 1) :: (s :: ss).map Suggestion.words

/-- The lines of a grid, with the empty one before them. -/
def gridRows : Option Grid → List (List Char)
  | none => []
  | some g => [] :: g.rows.map rowWords

theorem toList_heading (count : Nat) :
    ("Suggestions (" ++ Decimal.ofNat count ++ ")").toList = headingWords count := by
  have hcount : (Decimal.ofNat count).toList = Decimal.digits count := String.toList_ofList
  rw [String.toList_append, String.toList_append, hcount]
  rfl

theorem suggestionLine_eq : Suggestion.line = fun s => line s.words := rfl

theorem rowLine_eq : rowLine = fun row => line (rowWords row) := rfl

namespace Sheet

/-- The lines between the title and the text of the review. -/
def top (s : Sheet) : List (List Char) :=
  scoreRows s.score ++ languageRows s.language

/-- The lines behind the text of the review. -/
def bottom (s : Sheet) : List (List Char) :=
  suggestionRows s.suggestions ++ gridRows s.grid

/-- All lines of a sheet. -/
def rows (s : Sheet) : List (List Char) :=
  ["Review Results".toList, "==============".toList] ++ (s.top ++ [] :: s.review.toList :: s.bottom)

theorem suggestionLines_eq (s : Sheet) :
    s.suggestionLines = (suggestionRows s.suggestions).flatMap line := by
  unfold suggestionLines heading?
  cases s.suggestions with
  | nil => rfl
  | cons x xs =>
      simp only [List.isEmpty_cons, Bool.false_eq_true, if_false, toList_heading, suggestionRows,
        List.flatMap_cons, List.flatMap_map, List.append_assoc, suggestionLine_eq,
        List.length_cons, List.map_cons]

theorem gridLines_eq (g : Option Grid) : (g.map Grid.lines).getD [] = (gridRows g).flatMap line := by
  cases g with
  | none => rfl
  | some g =>
      simp only [Option.map_some, Option.getD_some, Grid.lines, gridRows, List.flatMap_cons,
        List.flatMap_map, rowLine_eq]

/-- The text of a sheet is its lines. -/
theorem chars_eq (s : Sheet) : s.chars = s.rows.flatMap line := by
  have hscore : (s.score.map ScoreCard.lines).getD [] = (scoreRows s.score).flatMap line := by
    cases s.score with
    | none => rfl
    | some c =>
        rw [scoreRows, List.flatMap_cons, List.flatMap_singleton]
        rfl
  have hlanguage : s.languageLine = (languageRows s.language).flatMap line := by
    unfold languageLine
    cases s.language with
    | none => rfl
    | some l => exact (List.flatMap_singleton _ _).symm
  unfold chars rows top bottom
  rw [hscore, hlanguage, suggestionLines_eq, gridLines_eq]
  simp only [List.flatMap_append, List.flatMap_cons, List.flatMap_nil, List.append_assoc,
    List.append_nil]

end Sheet

/-! ### What is on a line -/

theorem Bucket.name_inj {b b' : Bucket} (h : b.name = b'.name) : b = b' := by
  cases b <;> cases b' <;> first | rfl | exact absurd h (by decide)

theorem ScoreCard.words_inj {c c' : ScoreCard} (h : c.words = c'.words) : c = c' := by
  unfold words at h
  simp only [List.append_assoc] at h
  obtain ⟨hscore, hrest⟩ := digits_append_unique (by simp [Decimal.isDigit])
    (by simp [Decimal.isDigit]) (List.append_cancel_left h)
  have hname := List.append_cancel_right (List.append_cancel_left hrest)
  have hbucket := Bucket.name_inj (String.toList_inj.mp hname)
  rw [ScoreCard.mk.injEq]
  exact ⟨UInt8.toNat_inj.mp hscore, hbucket⟩

theorem Suggestion.words_inj {s s' : Suggestion} (h : s.words = s'.words) : s = s' := by
  unfold words at h
  simp only [List.append_assoc] at h
  obtain ⟨hindex, hrest⟩ := digits_append_unique (by simp [Decimal.isDigit])
    (by simp [Decimal.isDigit]) (List.append_cancel_left h)
  have htext := List.append_cancel_left hrest
  rw [Suggestion.mk.injEq]
  exact ⟨hindex, String.toList_inj.mp htext⟩

theorem rowWords_pair (a b : Cell) :
    rowWords [a, b] = [' ', ' '] ++ (a.chars ++ (List.replicate 4 ' ' ++ b.chars)) := by
  simp [rowWords, List.intercalate]

/-- Rows with the same labels differ in what they count. -/
theorem rowWords_inj {label label' : String} {m m' n n' : UInt64}
    (h : rowWords [⟨label, m⟩, ⟨label', m'⟩] = rowWords [⟨label, n⟩, ⟨label', n'⟩]) :
    m = n ∧ m' = n' := by
  rw [rowWords_pair, rowWords_pair] at h
  have hcells := List.append_cancel_left h
  unfold Cell.chars at hcells
  simp only [List.append_assoc] at hcells
  obtain ⟨hfirst, hrest⟩ := padLeft_append_unique (by simp [Decimal.isDigit])
    (by simp [Decimal.isDigit]) (List.append_cancel_left hcells)
  have hlast := List.append_cancel_left (List.append_cancel_left hrest)
  rw [← List.append_nil (padLeft _ _), ← List.append_nil (padLeft 6 (Decimal.digits n'.toNat))]
    at hlast
  obtain ⟨hsecond, -⟩ := padLeft_append_unique (by simp) (by simp) hlast
  exact ⟨UInt64.toNat_inj.mp hfirst, UInt64.toNat_inj.mp hsecond⟩

theorem gridRows_inj {g g' : Option Grid} (h : gridRows g = gridRows g') : g = g' := by
  cases g with
  | none =>
      cases g' with
      | none => rfl
      | some g' => cases h
  | some g =>
      cases g' with
      | none => cases h
      | some g' =>
          simp only [gridRows, Grid.rows, List.map_cons, List.map_nil, List.cons.injEq, and_true,
            true_and] at h
          obtain ⟨htotal, hcode⟩ := rowWords_inj h.1
          obtain ⟨hcomment, hissues⟩ := rowWords_inj h.2
          rw [Option.some.injEq, Grid.mk.injEq]
          exact ⟨htotal, hcode, hcomment, hissues⟩

/-- A heading is not the first row of a grid: one begins with a letter, the other with a
space. -/
theorem gridRows_ne_heading (g : Option Grid) (count : Nat) (rest : List (List Char)) :
    gridRows g ≠ [] :: headingWords count :: rest := by
  intro h
  cases g with
  | none => cases h
  | some g =>
      have hrow := (List.cons.inj (List.cons.inj h).2).1
      have hletter := congrArg List.head? hrow
      cases hletter

/-! ### What is above and below the review -/

theorem languageRows_inj {l l' : Option String} (h : languageRows l = languageRows l') : l = l' := by
  cases l with
  | none =>
      cases l' with
      | none => rfl
      | some l' => cases h
  | some l =>
      cases l' with
      | none => cases h
      | some l' =>
          have htext := List.append_cancel_left (List.cons.inj h).1
          rw [String.toList_inj.mp htext]

theorem length_languageRows_le (l : Option String) : (languageRows l).length ≤ 1 := by
  cases l <;> simp [languageRows]

theorem scoreRows_append_inj {c c' : Option ScoreCard} {l l' : Option String}
    (h : scoreRows c ++ languageRows l = scoreRows c' ++ languageRows l') : c = c' ∧ l = l' := by
  -- The score takes two lines and the language one, so the number of lines tells which are there.
  have hlength := congrArg List.length h
  rw [List.length_append, List.length_append] at hlength
  have hle := length_languageRows_le l
  have hle' := length_languageRows_le l'
  cases c with
  | none =>
      cases c' with
      | none => exact ⟨rfl, languageRows_inj h⟩
      | some c' =>
          simp only [scoreRows, List.length_cons, List.length_nil] at hlength
          omega
  | some c =>
      cases c' with
      | none =>
          simp only [scoreRows, List.length_cons, List.length_nil] at hlength
          omega
      | some c' =>
          simp only [scoreRows, List.cons_append, List.nil_append, List.cons.injEq, true_and] at h
          rw [ScoreCard.words_inj h.1]
          exact ⟨rfl, languageRows_inj h.2⟩

theorem map_words_ne_nil (ss : List Suggestion) :
    ∀ l ∈ ss.map Suggestion.words, (l != []) = true := by
  intro l hl
  obtain ⟨x, -, rfl⟩ := List.mem_map.mp hl
  rfl

theorem head_gridRows (g : Option Grid) : ∀ l ∈ (gridRows g).head?, (l != []) = false := by
  intro l hl
  cases g with
  | none => cases hl
  | some g =>
      cases hl
      rfl

theorem suggestionRows_append_inj {ss ss' : List Suggestion} {g g' : Option Grid}
    (h : suggestionRows ss ++ gridRows g = suggestionRows ss' ++ gridRows g') :
    ss = ss' ∧ g = g' := by
  cases ss with
  | nil =>
      cases ss' with
      | nil => exact ⟨rfl, gridRows_inj h⟩
      | cons x' xs' => exact absurd h (gridRows_ne_heading _ _ _)
  | cons x xs =>
      cases ss' with
      | nil => exact absurd h.symm (gridRows_ne_heading _ _ _)
      | cons x' xs' =>
          obtain ⟨hwords, hrows⟩ := leading_unique (map_words_ne_nil (x :: xs))
            (map_words_ne_nil (x' :: xs')) (head_gridRows g) (head_gridRows g')
            (List.cons.inj (List.cons.inj h).2).2
          have hitems := (List.map_inj_right fun _ _ => Suggestion.words_inj).mp hwords
          exact ⟨hitems, gridRows_inj hrows⟩

end ReviewDesk.Display
