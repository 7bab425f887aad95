/-
A label is its own label.

A label differs from its language in the first character only, which is in upper case and
may have become several.  What stands first is then another character than before, and that
it is left alone the second time is not in the definition: it is a fact about the tables of
upper case (`Text.upper_eq_cons`).  Since a label is never empty, a sheet is without one for
no other reason than that there is no language to label.
-/
import ReviewDesk.Proofs.Text.Uppercase
import ReviewDesk.Proofs.Display.Sheet

namespace ReviewDesk.Display

variable {s l : String}

theorem label?_eq_some : label? s = some l ↔
    ∃ c rest, s.toList = c :: rest ∧ l.toList = Text.upper c ++ rest := by
  unfold label?
  cases s.toList with
  | nil => simp
  | cons c rest =>
      rw [Option.some.injEq]
      constructor
      · rintro rfl
        exact ⟨c, rest, rfl, String.toList_ofList⟩
      · rintro ⟨_, _, ⟨⟩, hl⟩
        rw [← hl, String.ofList_toList]

/-- Only a language without a name has no label. -/
theorem label?_eq_none : label? s = none ↔ s = "" := by
  rw [← String.toList_eq_nil_iff, label?]
  cases s.toList <;> simp

/-- A label begins with something, and goes on as its language does. -/
theorem exists_head_of_label (h : label? s = some l) :
    ∃ head, head ≠ [] ∧ l.toList = head ++ s.toList.tail := by
  obtain ⟨c, rest, hs, hl⟩ := label?_eq_some.mp h
  obtain ⟨d, ds, hupper, -⟩ := Text.upper_eq_cons c
  refine ⟨d :: ds, List.cons_ne_nil d ds, ?_⟩
  rw [hl, hs, hupper, List.tail_cons]

theorem label?_of_label (h : label? s = some l) : label? l = some l := by
  obtain ⟨c, rest, -, hl⟩ := label?_eq_some.mp h
  obtain ⟨d, ds, hupper, hself⟩ := Text.upper_eq_cons c
  rw [hupper, List.cons_append] at hl
  refine label?_eq_some.mpr ⟨d, ds ++ rest, hl, ?_⟩
  rw [hl, hself, List.singleton_append]

namespace Sheet

theorem language_eq_none {r : Review} :
    (ofReview r).language = none ↔ r.language = none ∨ r.language = some "" := by
  show r.language.bind label? = none ↔ _
  cases r.language with
  | none => simp
  | some s => simp [label?_eq_none]

theorem languageLine_eq_nil {s : Sheet} : s.languageLine = [] ↔ s.language = none := by
  unfold languageLine
  cases s.language with
  | none => simp
  | some l => simp [line]

/-- A sheet has its label from the language or from the label of that. -/
theorem ofReview_labelled (r : Review) :
    ofReview { r with language := r.language.bind label? } = ofReview r := by
  have hlabel : (r.language.bind label?).bind label? = r.language.bind label? := by
    cases hl : r.language.bind label? with
    | none => rfl
    | some l =>
        obtain ⟨s, -, hs⟩ := Option.bind_eq_some_iff.mp hl
        exact label?_of_label hs
  refine ofReview_eq_iff.mpr ⟨rfl, rfl, hlabel, rfl, ?_⟩
  cases r.metrics with
  | none => exact .none
  | some m => exact .some ⟨rfl, rfl, rfl, rfl⟩

end Sheet

/--
**The label is a normal form of the language.**

Every language with a name has a label.  The label is not empty, it goes on after its
beginning as the language does after its first character, and it is its own label.  So a
sheet has no label, and its text no line for one, exactly if there is no language or one
without a name; and the sheet of a review stays the same when the label is put in place of
the language.
-/
theorem label_normal_form :
    (∀ s : String, s ≠ "" → ∃ l, label? s = some l ∧ l ≠ "" ∧
      (∃ head, head ≠ [] ∧ l.toList = head ++ s.toList.tail) ∧ label? l = some l) ∧
    (∀ r : Review, (Sheet.ofReview r).language = none ↔
      r.language = none ∨ r.language = some "") ∧
    (∀ r : Review, (Sheet.ofReview r).languageLine = [] ↔
      r.language = none ∨ r.language = some "") ∧
    (∀ r : Review,
      Sheet.ofReview { r with language := r.language.bind label? } = Sheet.ofReview r) := by
  refine ⟨fun s hs => ?_, fun r => Sheet.language_eq_none,
    fun r => Sheet.languageLine_eq_nil.trans Sheet.language_eq_none, Sheet.ofReview_labelled⟩
  obtain ⟨l, hl⟩ := Option.ne_none_iff_exists'.mp fun hnone => hs (label?_eq_none.mp hnone)
  have hagain := label?_of_label hl
  refine ⟨l, hl, ?_, exists_head_of_label hl, hagain⟩
  rintro rfl
  cases hagain

/-- The letter n with an apostrophe before it is expanded to the two, and the apostrophe, which
now stands first, has no upper case. -/
theorem label_normal_form_apostrophe :
    label? "ŉgoni" = some "ʼNgoni" ∧ label? "ʼNgoni" = some "ʼNgoni" ∧
      ∃ head, head ≠ [] ∧ "ʼNgoni".toList = head ++ "goni".toList := by
  obtain ⟨l, hl, -, hhead, hagain⟩ := label_normal_form.1 "ŉgoni" (by decide)
  have hlabel : label? "ŉgoni" = some "ʼNgoni" := by decide +kernel
  rw [hl] at hlabel
  obtain rfl := Option.some.inj hlabel
  exact ⟨hl, hagain, hhead⟩

end ReviewDesk.Display
