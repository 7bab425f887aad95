/-
What a sheet keeps of a review.

A sheet is made for showing, and some of a review is not shown: the number of blank lines,
the lengths of lines, how the first letter of the language was written, and whether no
issues were reported or none at all.  `Review.ShownAlike` is what is left, and sheets are
the same for reviews that agree in it and for no others.
-/
import ReviewDesk.Display.Sheet

namespace ReviewDesk

/-- Two reviews that do not differ in anything that is shown. -/
structure Review.ShownAlike (r r' : Review) : Prop where
  review : r.review = r'.review
  score : r.qualityScore = r'.qualityScore
  label : r.language.bind Display.label? = r'.language.bind Display.label?
  suggestions : r.suggestions = r'.suggestions
  /-- Neither has metrics, or both have them with these figures. -/
  figures : Option.Rel (fun m m' => m.totalLines = m'.totalLines ∧ m.codeLines = m'.codeLines ∧
    m.commentLines = m'.commentLines ∧ r.issues = r'.issues) r.metrics r'.metrics

namespace Display

theorem map_text_numberedFrom (n : Nat) (ss : List String) :
    (numberedFrom n ss).map Suggestion.text = ss := by
  induction ss generalizing n with
  | nil => rfl
  | cons s ss ih => rw [numberedFrom, List.map_cons, ih]

theorem numberedFrom_inj {n : Nat} {ss ss' : List String} :
    numberedFrom n ss = numberedFrom n ss' ↔ ss = ss' := by
  constructor
  · intro h
    have htexts := congrArg (List.map Suggestion.text) h
    rwa [map_text_numberedFrom, map_text_numberedFrom] at htexts
  · rintro rfl
    rfl

theorem map_ofScore_inj {score score' : Option UInt8} :
    score.map ScoreCard.ofScore = score'.map ScoreCard.ofScore ↔ score = score' := by
  refine Option.map_inj_right ?_
  intro a b h
  exact congrArg ScoreCard.score h

namespace Sheet

/-- Reviews have the same sheet when all that is shown of them is the same. -/
theorem ofReview_eq_iff {r r' : Review} : ofReview r = ofReview r' ↔ r.ShownAlike r' := by
  have hgrid : (ofReview r).grid = (ofReview r').grid ↔
      Option.Rel (fun m m' => m.totalLines = m'.totalLines ∧ m.codeLines = m'.codeLines ∧
        m.commentLines = m'.commentLines ∧ r.issues = r'.issues) r.metrics r'.metrics := by
    unfold ofReview
    cases r.metrics with
    | none => cases r'.metrics <;> simp
    | some m => cases r'.metrics <;> simp
  constructor
  · intro h
    exact {
      review := congrArg Sheet.review h
      score := map_ofScore_inj.mp (congrArg Sheet.score h)
      label := congrArg Sheet.language h
      suggestions := numberedFrom_inj.mp (congrArg Sheet.suggestions h)
      figures := hgrid.mp (congrArg Sheet.grid h) }
  · intro h
    have hfigures := hgrid.mpr h.figures
    unfold ofReview at hfigures ⊢
    rw [Sheet.mk.injEq]
    exact ⟨h.review, map_ofScore_inj.mpr h.score, h.label, numberedFrom_inj.mpr h.suggestions,
      hfigures⟩

end Sheet

end Display

end ReviewDesk
