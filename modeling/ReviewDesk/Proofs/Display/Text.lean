/-
The text of a sheet tells everything that is on it.

The sections of the text are set apart by empty lines only, and the review, the language
and the suggestions may look like anything that stands on one line.  What tells the
sections apart is where the empty lines are.  Above the review there are at most three
lines, and the first and the third of them say which they are; below it there is nothing,
or an empty line and then two lines of which the second is not empty.  So no review can
pass for a score with a review below it (`sections_unique`).

That the text is made of lines in the first place is where line feeds have to be kept out:
of the texts in the review by assumption, of figures because they are digits, and of labels
because no letter has a line feed in its upper case.
-/
import ReviewDesk.Proofs.Display.Rows
import ReviewDesk.Proofs.Display.Sheet
import ReviewDesk.Proofs.Text.Uppercase

namespace ReviewDesk.Display

/-! ### Sections -/

/-- What can stand above the review: an empty line and the score, and the language. -/
inductive Top : List (List Char) → Prop
  | none : Top []
  | language {l : List Char} (h : l ≠ []) : Top [l]
  | score (x : List Char) : Top [[], x]
  | both (x : List Char) {l : List Char} (h : l ≠ []) : Top [[], x, l]

/-- What can stand below the review. -/
def Bottom (b : List (List Char)) : Prop :=
  b = [] ∨ ∃ x y rest, b = [] :: x :: y :: rest ∧ y ≠ []

section

variable {t t' b b' : List (List Char)} {a a' : List Char}

theorem Bottom.head_eq_nil {x : List Char} (hb : Bottom (x :: b)) : x = [] := by
  rcases hb with hb | ⟨y, z, rest, hb, -⟩
  · cases hb
  · exact (List.cons.inj hb).1

/-- What is below a review is no review with something else below it. -/
theorem Bottom.not_review (hb : Bottom ([] :: a :: b)) : ¬ Bottom b := by
  rcases hb with hb | ⟨y, z, rest, hb, hz⟩
  · cases hb
  · intro hbottom
    cases hb
    exact hz hbottom.head_eq_nil

/-- Taking more lines for what is above the review leaves something impossible below it. -/
theorem Top.length_le (ht : Top t) (ht' : Top t') (hb : Bottom b) (hb' : Bottom b')
    (h : t ++ [] :: a :: b = t' ++ [] :: a' :: b') : t'.length ≤ t.length := by
  cases ht with
  | none =>
      cases ht' with
      | none => exact Nat.le_refl _
      | language hl => exact absurd (List.cons.inj h).1.symm hl
      | score x =>
          have hbottom : b = [] :: a' :: b' := (List.cons.inj (List.cons.inj h).2).2
          rw [hbottom] at hb
          exact absurd hb' hb.not_review
      | both x hl =>
          cases h
          exact absurd hb.head_eq_nil hl
  | language hl =>
      cases ht' with
      | none => simp
      | language hl' => exact Nat.le_refl _
      | score x => exact absurd (List.cons.inj h).1 hl
      | both x hl' => exact absurd (List.cons.inj h).1 hl
  | score x =>
      cases ht' with
      | both y hl =>
          cases h
          exact absurd rfl hl
      | _ => simp
  | both x hl => cases ht' <;> simp

/-- The lines of a text fall into sections in one way only. -/
theorem sections_unique (ht : Top t) (ht' : Top t') (hb : Bottom b) (hb' : Bottom b')
    (h : t ++ [] :: a :: b = t' ++ [] :: a' :: b') : t = t' ∧ a = a' ∧ b = b' := by
  have hlength : t.length = t'.length :=
    Nat.le_antisymm (ht'.length_le ht hb' hb h.symm) (ht.length_le ht' hb hb' h)
  obtain ⟨htop, hrest⟩ := List.append_inj h hlength
  simp only [List.cons.injEq, true_and] at hrest
  exact ⟨htop, hrest⟩

end

namespace Sheet

variable {s s' : Sheet}

theorem top_isTop (s : Sheet) : Top s.top := by
  have hne : ∀ l : String, "Language: ".toList ++ l.toList ≠ [] := by
    intro l
    simp
  unfold top
  cases s.score with
  | none =>
      cases s.language with
      | none => exact .none
      | some l => exact .language (hne l)
  | some c =>
      cases s.language with
      | none => exact .score _
      | some l => exact .both _ (hne l)

theorem bottom_isBottom (s : Sheet) : Bottom s.bottom := by
  unfold bottom
  cases s.suggestions with
  | nil =>
      cases s.grid with
      | none => exact Or.inl rfl
      | some g => exact Or.inr ⟨_, _, _, rfl, by simp [rowWords]⟩
  | cons x xs => exact Or.inr ⟨_, _, _, rfl, by simp [Suggestion.words]⟩

/-- Sheets with the same lines are the same. -/
theorem rows_inj (h : s.rows = s'.rows) : s = s' := by
  obtain ⟨htop, hreview, hbottom⟩ := sections_unique s.top_isTop s'.top_isTop s.bottom_isBottom
    s'.bottom_isBottom (List.append_cancel_left h)
  obtain ⟨hscore, hlanguage⟩ := scoreRows_append_inj htop
  obtain ⟨hsuggestions, hgrid⟩ := suggestionRows_append_inj hbottom
  rw [Sheet.mk.injEq]
  exact ⟨String.toList_inj.mp hreview, hscore, hlanguage, hsuggestions, hgrid⟩

end Sheet

/-! ### Lines stay lines -/

instance (s : List Char) : Decidable (Unbroken s) :=
  inferInstanceAs (Decidable ('\n' ∉ s))

/-- No text on the sheet has a line feed in it. -/
structure Sheet.Unbroken (s : Sheet) : Prop where
  review : Display.Unbroken s.review.toList
  language : ∀ l ∈ s.language, Display.Unbroken l.toList
  suggestions : ∀ x ∈ s.suggestions, Display.Unbroken x.text.toList

theorem unbroken_nil : Unbroken [] := by decide

theorem ScoreCard.unbroken_words (c : ScoreCard) : Unbroken c.words := by
  have hname : Unbroken c.bucket.name.toList := by
    cases c.bucket <;> decide
  have hbefore : Unbroken "Code Quality Score: ".toList := by decide
  have hafter : Unbroken "/100 (".toList := by decide
  exact (((hbefore.append (unbroken_digits _)).append hafter).append hname).append (by decide)

theorem Suggestion.unbroken_words {s : Suggestion} (h : Unbroken s.text.toList) :
    Unbroken s.words := by
  have hbefore : Unbroken [' ', ' '] := by decide
  have hafter : Unbroken ['.', ' '] := by decide
  exact ((hbefore.append (unbroken_digits _)).append hafter).append h

theorem unbroken_headingWords (count : Nat) : Unbroken (headingWords count) := by
  have hbefore : Unbroken "Suggestions (".toList := by decide
  exact (hbefore.append (unbroken_digits _)).append (by decide)

theorem unbroken_replicate (n : Nat) : Unbroken (List.replicate n ' ') := by
  intro h
  cases List.eq_of_mem_replicate h

theorem Cell.unbroken_chars {c : Cell} (h : Unbroken c.label.toList) : Unbroken c.chars :=
  (h.append (unbroken_replicate _)).append ((unbroken_replicate _).append (unbroken_digits _))

theorem unbroken_rowWords {a b : Cell} (ha : Unbroken a.label.toList)
    (hb : Unbroken b.label.toList) : Unbroken (rowWords [a, b]) := by
  have hbefore : Unbroken [' ', ' '] := by decide
  rw [rowWords_pair]
  exact hbefore.append (a.unbroken_chars ha |>.append ((unbroken_replicate 4).append
    (b.unbroken_chars hb)))

theorem unbroken_gridRows (g : Option Grid) : ∀ l ∈ gridRows g, Unbroken l := by
  cases g with
  | none => simp [gridRows]
  | some g =>
      have hfirst : Unbroken "Total Lines".toList ∧ Unbroken "Code Lines".toList := by decide
      have hsecond : Unbroken "Comments".toList ∧ Unbroken "Issues Found".toList := by decide
      intro l hl
      simp only [gridRows, Grid.rows, List.map_cons, List.map_nil, List.mem_cons,
        List.not_mem_nil, or_false] at hl
      rcases hl with rfl | rfl | rfl
      · exact unbroken_nil
      · exact unbroken_rowWords hfirst.1 hfirst.2
      · exact unbroken_rowWords hsecond.1 hsecond.2

theorem unbroken_scoreRows (c : Option ScoreCard) : ∀ l ∈ scoreRows c, Unbroken l := by
  cases c with
  | none => simp [scoreRows]
  | some c => simpa [scoreRows] using ⟨unbroken_nil, c.unbroken_words⟩

theorem unbroken_languageRows {language : Option String}
    (h : ∀ l ∈ language, Unbroken l.toList) : ∀ l ∈ languageRows language, Unbroken l := by
  have hbefore : Unbroken "Language: ".toList := by decide
  cases language with
  | none => simp [languageRows]
  | some l =>
      intro row hrow
      rw [List.mem_singleton.mp hrow]
      exact hbefore.append (h l rfl)

theorem unbroken_suggestionRows {ss : List Suggestion}
    (h : ∀ x ∈ ss, Unbroken x.text.toList) : ∀ l ∈ suggestionRows ss, Unbroken l := by
  cases ss with
  | nil => simp [suggestionRows]
  | cons x xs =>
      intro row hrow
      rcases List.mem_cons.mp hrow with rfl | hrow
      · exact unbroken_nil
      rcases List.mem_cons.mp hrow with rfl | hrow
      · exact unbroken_headingWords _
      obtain ⟨y, hy, rfl⟩ := List.mem_map.mp hrow
      exact Suggestion.unbroken_words (h y hy)

namespace Sheet

theorem Unbroken.rows {s : Sheet} (h : s.Unbroken) : ∀ l ∈ s.rows, Display.Unbroken l := by
  have htitle : Display.Unbroken "Review Results".toList := by decide
  have hrule : Display.Unbroken "==============".toList := by decide
  intro l hl
  simp only [Sheet.rows, top, bottom, List.mem_append, List.mem_cons, List.not_mem_nil,
    or_false] at hl
  rcases hl with (rfl | rfl) | (hl | hl) | rfl | rfl | hl | hl
  · exact htitle
  · exact hrule
  · exact unbroken_scoreRows _ l hl
  · exact unbroken_languageRows h.language l hl
  · exact unbroken_nil
  · exact h.review
  · exact unbroken_suggestionRows h.suggestions l hl
  · exact unbroken_gridRows _ l hl

/-- Nothing on a sheet is lost in its text. -/
theorem toText_inj {s s' : Sheet} (h : s.Unbroken) (h' : s'.Unbroken)
    (htext : s.toText = s'.toText) : s = s' := by
  have hchars : s.chars = s'.chars := String.ofList_inj.mp htext
  rw [chars_eq, chars_eq] at hchars
  exact rows_inj (flatMap_line_unique h.rows h'.rows hchars)

end Sheet

/-! ### Reviews -/

theorem unbroken_label {language l : String} (h : Unbroken language.toList)
    (hl : label? language = some l) : Unbroken l.toList := by
  unfold label? at hl
  cases hlanguage : language.toList with
  | nil =>
      rw [hlanguage] at hl
      cases hl
  | cons c rest =>
      rw [hlanguage] at h hl
      simp only [Option.some.injEq] at hl
      rw [← hl, String.toList_ofList]
      simp only [Unbroken, List.mem_cons, not_or] at h
      have hupper : Unbroken (Text.upper c) := Text.lineFeed_not_mem_upper (Ne.symm h.1)
      exact hupper.append h.2

end Display

/-- The texts of the review have no line feed in them. -/
structure Review.Unbroken (r : Review) : Prop where
  review : '\n' ∉ r.review.toList
  language : ∀ l ∈ r.language, '\n' ∉ l.toList
  suggestions : ∀ s ∈ r.suggestions, '\n' ∉ s.toList

namespace Display.Sheet

theorem text_mem_of_mem_numberedFrom {n : Nat} {ss : List String} {x : Suggestion}
    (h : x ∈ numberedFrom n ss) : x.text ∈ ss := by
  rw [← map_text_numberedFrom n ss]
  exact List.mem_map_of_mem h

theorem unbroken_ofReview {r : Review} (h : r.Unbroken) : (ofReview r).Unbroken where
  review := h.review
  language l hl := by
    obtain ⟨language, hlanguage, hlabel⟩ := Option.bind_eq_some_iff.mp hl
    exact unbroken_label (h.language language hlanguage) hlabel
  suggestions x hx := h.suggestions _ (text_mem_of_mem_numberedFrom hx)

/-- The text shown of a review tells everything that is shown of it, as long as the texts
in it keep to their lines: two reviews with the same text have the same review, score,
label and suggestions and the same figures, and reviews that agree in these have the same
text. -/
theorem toText_eq_iff {r r' : Review} (h : r.Unbroken) (h' : r'.Unbroken) :
    (ofReview r).toText = (ofReview r').toText ↔ r.ShownAlike r' := by
  rw [← ofReview_eq_iff]
  constructor
  · intro htext
    exact toText_inj (unbroken_ofReview h) (unbroken_ofReview h') htext
  · intro hsheet
    rw [hsheet]

/-- A review that looks like a score does not pass for one; what is not shown, such as blank
lines and the case of a letter, makes no difference. -/
theorem toText_eq_iff_imitation :
    (∃ r r' : Review, r.Unbroken ∧ r'.Unbroken ∧
      r.review = "Code Quality Score: 85/100 (good)" ∧ r'.qualityScore = some 85 ∧
      (ofReview r).toText ≠ (ofReview r').toText) ∧
    ∃ r r' : Review, r.Unbroken ∧ r'.Unbroken ∧
      r.language = some "rust" ∧ r'.language = some "Rust" ∧
      r.issuesCount = none ∧ r'.issuesCount = some 0 ∧
      (ofReview r).toText = (ofReview r').toText := by
  constructor
  · have h : Review.Unbroken ⟨"Code Quality Score: 85/100 (good)", [], none, none, none, none⟩ :=
      ⟨by decide, by simp, by simp⟩
    have h' : Review.Unbroken ⟨"Fine", ["Suggestions (1)"], some 85, none, none, none⟩ :=
      ⟨by decide, by simp, by decide⟩
    refine ⟨_, _, h, h', rfl, rfl, ?_⟩
    intro htext
    have halike := (toText_eq_iff h h').mp htext
    cases halike.score
  · have h : Review.Unbroken ⟨"Fine", [], none, some "rust", some ⟨4, 3, 1, 0, 9, 9⟩, none⟩ :=
      ⟨by decide, by simp, by simp⟩
    have h' : Review.Unbroken ⟨"Fine", [], none, some "Rust", some ⟨4, 3, 1, 1, 9, 7⟩, some 0⟩ :=
      ⟨by decide, by simp, by simp⟩
    refine ⟨_, _, h, h', rfl, rfl, rfl, rfl, (toText_eq_iff h h').mpr ?_⟩
    exact {
      review := rfl
      score := rfl
      label := by decide +kernel
      suggestions := rfl
      figures := .some ⟨rfl, rfl, rfl, rfl⟩ }

end Display.Sheet

end ReviewDesk
