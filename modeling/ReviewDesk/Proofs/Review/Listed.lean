/-
A reply lists its values or names them.

A review and its metrics are records, so each may be a list of values in the order of the
fields or an object that gives the fields their values by key.  The two come to the same for
as many values as there are fields or fewer: a field without a value is told the same in
both, by a value to fall back on or by its absence.  The metrics stand inside a review, which
is itself an object or a list; whichever it is, and whatever else is in it, their value may be
exchanged for another one that comes to the same (`Place`).
-/
import ReviewDesk.Proofs.Json.InOrder
import ReviewDesk.Proofs.Json.Places
import ReviewDesk.Proofs.Review.Layout

namespace ReviewDesk

open Json

variable {vs : List Tree}

/-- The keys of a review, in the order of its fields. -/
def Review.names : List String :=
  ["review", "suggestions", "quality_score", "language", "metrics", "issues_count"]

/-- The keys of the metrics, in the order of their fields. -/
def Metrics.names : List String :=
  ["total_lines", "code_lines", "comment_lines", "blank_lines", "max_line_length",
    "avg_line_length"]

theorem Review.keys_eq : Review.keys = Review.names := rfl

theorem Metrics.keys_eq : Metrics.keys = Metrics.names := rfl

/-! ### Values by key and in order -/

theorem Metrics.ofTree_named (hvs : vs.length ≤ 6) :
    Metrics.ofTree (.object (named Metrics.names vs)) = Metrics.ofTree (.list vs) := by
  rw [← Metrics.keys_eq]
  have habsent : ∀ f ∈ Metrics.fields, f.absent = f.omitted := by
    simp [Metrics.fields, Field.required]
  exact congrArg (Option.map Metrics.ofRow)
    (Row.ofMembers_named Metrics.meanings (by decide) habsent hvs)

theorem Review.ofTree_named (hvs : vs.length ≤ 6) :
    Review.ofTree (.object (named Review.names vs)) = Review.ofTree (.list vs) := by
  rw [← Review.keys_eq]
  have habsent : ∀ f ∈ Review.fields, f.absent = f.omitted := by
    simp [Review.fields, Field.required, Field.withDefault]
  exact congrArg (Option.map Review.ofRow)
    (Row.ofMembers_named Review.meanings (by decide) habsent hvs)

theorem Metrics.ofTree_of_length_lt (hvs : 6 < vs.length) : Metrics.ofTree (.list vs) = none :=
  congrArg (Option.map Metrics.ofRow) (Row.ofItems_of_length_lt Metrics.meanings hvs)

theorem Review.ofTree_of_length_lt (hvs : 6 < vs.length) : Review.ofTree (.list vs) = none :=
  congrArg (Option.map Review.ofRow) (Row.ofItems_of_length_lt Review.meanings hvs)

/-! ### The place of the metrics -/

section

variable {place : Tree → Tree} (hplace : Place Review.keys "metrics" place)
include hplace

theorem Review.ofTree_place_congr {v v' : Tree}
    (h : Tree.optional? Metrics.ofTree v' = Tree.optional? Metrics.ofTree v) :
    Review.ofTree (place v') = Review.ofTree (place v) :=
  congrArg (Option.map Review.ofRow)
    (Tree.row?_place_congr Review.meanings hplace (by decide) (Review.agree_metrics h))

theorem Review.ofTree_place_refused {v : Tree} (h : Tree.optional? Metrics.ofTree v = none) :
    Review.ofTree (place v) = none :=
  congrArg (Option.map Review.ofRow)
    (Tree.row?_place_refused Review.meanings hplace (by decide)
      (.inr (.inr (.inr (.inr (.inl ⟨rfl, h⟩))))))

end

/-! ### Replies -/

theorem plain_of_mem_names {k : String} (hk : k ∈ Review.names ++ Metrics.names) :
    ∀ b ∈ Text.bytes k, Plain b := by
  have hplain : isPlain k = true :=
    List.all_eq_true.mp (by decide : (Review.names ++ Metrics.names).all isPlain = true) k hk
  exact fun b hb => of_decide_eq_true (List.all_eq_true.mp hplain b hb)

/--
**It makes no difference whether a reply lists its values or names them.**

Up to six values, whatever they are, are accepted as a list just when they are accepted as an
object that gives them to the first fields of a review in their order, and as the same review;
and so are the values of the metrics inside a reply, which may be a list or an object itself
and may hold anything else.  More than six values in a list are never accepted, neither as a
review nor as its metrics.  Texts of the values with commas between them, in brackets or with
the keys in braces, are documents of such a list and such an object.
-/
theorem Review.decode_listed_iff_named :
    (∀ (vs : List Tree) (bs bs' : Bytes), vs.length ≤ 6 →
      TreeDocument (.list vs) bs → TreeDocument (.object (named Review.names vs)) bs' →
      ∀ r : Review, Review.decode bs = .ok r ↔ Review.decode bs' = .ok r) ∧
    (∀ (place : Tree → Tree) (vs : List Tree) (bs bs' : Bytes),
      Place Review.names "metrics" place → vs.length ≤ 6 →
      TreeDocument (place (.list vs)) bs →
      TreeDocument (place (.object (named Metrics.names vs))) bs' →
      ∀ r : Review, Review.decode bs = .ok r ↔ Review.decode bs' = .ok r) ∧
    (∀ (vs : List Tree) (bs : Bytes), 6 < vs.length →
      (TreeDocument (.list vs) bs ∨
        ∃ place, Place Review.names "metrics" place ∧ TreeDocument (place (.list vs)) bs) →
      ∀ r : Review, Review.decode bs ≠ .ok r) ∧
    (∀ (vs : List Tree) (xs : List Bytes), List.Forall₂ TreeDocument vs xs →
      TreeDocument (.list vs) (listText xs) ∧
      TreeDocument (.object (named Review.names vs)) (objectText Review.names xs) ∧
      TreeDocument (.object (named Metrics.names vs)) (objectText Metrics.names xs)) := by
  refine ⟨?_, ?_, ?_, ?_⟩
  · intro vs bs bs' hvs hdoc hdoc'
    exact Review.decode_congr (Review.ofTree_named hvs) hdoc hdoc'
  · intro place vs bs bs' hplace hvs hdoc hdoc'
    have hmetrics : Tree.optional? Metrics.ofTree (.object (named Metrics.names vs)) =
        Tree.optional? Metrics.ofTree (.list vs) :=
      congrArg (Option.map some) (Metrics.ofTree_named hvs)
    exact Review.decode_congr (Review.ofTree_place_congr hplace hmetrics) hdoc hdoc'
  · rintro vs bs hvs (hdoc | ⟨place, hplace, hdoc⟩)
    · exact Review.decode_of_ofTree_eq_none (Review.ofTree_of_length_lt hvs) hdoc
    · have hmetrics : Tree.optional? Metrics.ofTree (.list vs) = none :=
        congrArg (Option.map some) (Metrics.ofTree_of_length_lt hvs)
      exact Review.decode_of_ofTree_eq_none (Review.ofTree_place_refused hplace hmetrics) hdoc
  · intro vs xs h
    exact ⟨treeDocument_listText h,
      treeDocument_objectText (fun k hk => plain_of_mem_names (List.mem_append_left _ hk)) h,
      treeDocument_objectText (fun k hk => plain_of_mem_names (List.mem_append_right _ hk)) h⟩

/-! ### A reply in three ways -/

/-- The values of the metrics, which are given to their fields in order. -/
def sixCounts : List Tree :=
  ['5', '3', '1', '1', '9', '4'].map digit

def sixTexts : List Bytes :=
  ['5', '3', '1', '1', '9', '4'].map fun c => [ascii c]

/-- What stands before the metrics. -/
def fourValues : List Tree :=
  [.text (some "a"), .list [], digit '7', .null]

/-- A reply without a count of issues, whose metrics are these. -/
def fiveValues (metrics : Tree) : List Tree :=
  fourValues ++ [metrics]

def fiveTexts (metrics : Bytes) : List Bytes :=
  [Text.bytes "\"a\"", Text.bytes "[]", [ascii '7'], Text.bytes "null", metrics]

/-- The review that the reply brings. -/
def fivefoldReview : Review where
  review := "a"
  suggestions := []
  qualityScore := some 7
  language := none
  metrics := some ⟨5, 3, 1, 1, 9, 4⟩
  issuesCount := none

theorem forall₂_sixTexts : List.Forall₂ TreeDocument sixCounts sixTexts := by
  have hdigit : ∀ c ∈ ['5', '3', '1', '1', '9', '4'], isDigit (ascii c) = true :=
    List.all_eq_true.mp (by decide)
  refine List.forall₂_map_left_iff.mpr (List.forall₂_map_right_iff.mpr ?_)
  exact List.forall₂_same.mpr fun c hc => ⟨_, [], .none, treeOf_digit (hdigit c hc) [], .none⟩

theorem forall₂_fiveTexts {v : Tree} {bs : Bytes} (h : TreeDocument v bs) :
    List.Forall₂ TreeDocument (fiveValues v) (fiveTexts bs) := by
  refine .cons ?_ (.cons ?_ (.cons ?_ (.cons ?_ (.cons h .nil))))
  · exact ⟨_, [], .none, treeOf_a [], .none⟩
  · exact ⟨_, [], .none, .list (.empty .none), .none⟩
  · exact ⟨_, [], .none, treeOf_digit (by decide) [], .none⟩
  · exact ⟨_, [], .none, .null, .none⟩

theorem Review.decode_listed_iff_named_values :
    (Review.decode (listText (fiveTexts (listText sixTexts))) = .ok fivefoldReview ∧
      Review.decode (objectText Review.names (fiveTexts (listText sixTexts))) = .ok fivefoldReview) ∧
    Review.decode (listText (fiveTexts (objectText Metrics.names sixTexts))) = .ok fivefoldReview ∧
    ∀ r : Review, Review.decode (listText (sixTexts ++ [[ascii '0']])) ≠ .ok r := by
  obtain ⟨hnamed, hmetrics, hlong, htexts⟩ := Review.decode_listed_iff_named
  obtain ⟨hlist, -, hobject⟩ := htexts _ _ forall₂_sixTexts
  obtain ⟨hlisted, hnames, -⟩ := htexts _ _ (forall₂_fiveTexts hlist)
  obtain ⟨hinner, -⟩ := htexts _ _ (forall₂_fiveTexts hobject)
  have hproblem : fivefoldReview.problem? = none :=
    Option.isNone_iff_eq_none.mp (by decide +kernel)
  have hdecode : Review.decode (listText (fiveTexts (listText sixTexts))) = .ok fivefoldReview :=
    (Review.decode_document hlisted).mpr ⟨rfl, hproblem⟩
  have hplace : Place Review.names "metrics" fun v => .list (fiveValues v) :=
    @Place.item _ _ fourValues rfl []
  have hzero : TreeDocument (digit '0') [ascii '0'] :=
    ⟨_, [], .none, treeOf_digit (by decide) [], .none⟩
  obtain ⟨hseven, -⟩ := htexts _ _ (List.rel_append forall₂_sixTexts (.cons hzero .nil))
  refine ⟨⟨hdecode, ?_⟩, ?_, ?_⟩
  · exact (hnamed _ _ _ (by decide) hlisted hnames _).mp hdecode
  · exact (hmetrics _ sixCounts _ _ hplace (by decide) hlisted hinner _).mp hdecode
  · exact hlong _ _ (by decide) (.inl hseven)

end ReviewDesk
