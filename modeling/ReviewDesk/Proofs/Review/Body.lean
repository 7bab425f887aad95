/-
What makes a reply a review, and where it ends.

A reply that is read as a review is a document of some tree, and the review is told by that
tree (`Review.ofTree`) together with the bounds.  Since a record is a list or an object, the
tree is over where its bracket is closed, whatever follows.  So a reply that has been read
to its end is not the beginning of any other: behind it there is room for white space only
(`Review.decode_append`).
-/
import ReviewDesk.Review.Document
import ReviewDesk.Proofs.Json.Rows

namespace ReviewDesk

open Json

/-! ### What a tree can be taken for -/

/-- What each of the metrics is taken for. -/
def Metrics.meanings : Meanings Metrics.fields :=
  (⟨Tree.uint64?, Reader.means_uint64⟩, ⟨Tree.uint64?, Reader.means_uint64⟩,
    ⟨Tree.uint64?, Reader.means_uint64⟩, ⟨Tree.uint64?, Reader.means_uint64⟩,
    ⟨Tree.double?, Reader.means_double⟩, ⟨Tree.double?, Reader.means_double⟩, ())

/-- The metrics that a tree can be taken for. -/
def Metrics.ofTree (v : Tree) : Option Metrics :=
  (v.row? Metrics.fields Metrics.meanings).map Metrics.ofRow

theorem Metrics.means_reader : Metrics.reader.Means Metrics.ofTree :=
  (Reader.means_record Metrics.meanings (List.cons_ne_nil _ _) (by decide)).map Metrics.ofRow

/-- What each field of a review is taken for. -/
def Review.meanings : Meanings Review.fields :=
  (⟨Tree.text?, Reader.means_textValue "a string"⟩,
    ⟨Tree.list? Tree.text?, Reader.means_listValue (Reader.means_textValue "a string")⟩,
    ⟨Tree.optional? Tree.uint8?, Reader.means_optional Reader.means_uint8⟩,
    ⟨Tree.optional? Tree.text?, Reader.means_optional (Reader.means_textValue "a string")⟩,
    ⟨Tree.optional? Metrics.ofTree, Reader.means_optional Metrics.means_reader⟩,
    ⟨Tree.optional? Tree.uint64?, Reader.means_optional Reader.means_uint64⟩, ())

/-- The review that a tree can be taken for, in bounds or not. -/
def Review.ofTree (v : Tree) : Option Review :=
  (v.row? Review.fields Review.meanings).map Review.ofRow

theorem Review.means_reader : Review.reader.Means Review.ofTree :=
  (Reader.means_record Review.meanings (List.cons_ne_nil _ _) (by decide)).map Review.ofRow

/-- A review is read the same whatever follows it. -/
theorem Review.answer_reader {s s' t : Bytes} {v : Tree} (hs : Blanks s s') (hv : TreeOf v s' t) :
    Review.reader.answer s = (Review.ofTree v).map (·, t) := by
  rw [Review.reader, Reader.answer_bind,
    Reader.answer_record Review.meanings (List.cons_ne_nil _ _) (by decide) hs hv, Review.ofTree]
  cases v.row? Review.fields Review.meanings <;> rfl

/-! ### Replies that are read -/

variable {bs : Bytes} {r : Review}

theorem Review.decode_eq_ok :
    Review.decode bs = .ok r ↔ Review.ofBytes bs = .ok r ∧ r.problem? = none := by
  unfold Review.decode
  split
  · next hmisread =>
    constructor
    · rintro ⟨⟩
    · rintro ⟨hread, -⟩
      rw [hread] at hmisread
      cases hmisread
  · next r' hread =>
    rw [hread]
    split
    · next hproblem =>
      constructor
      · rintro ⟨⟩
      · rintro ⟨⟨⟩, hnone⟩
        rw [hnone] at hproblem
        cases hproblem
    · next hnone =>
      constructor
      · rintro ⟨⟩
        exact ⟨rfl, hnone⟩
      · rintro ⟨⟨⟩, -⟩
        rfl

theorem Review.decode_document {v : Tree} (hdoc : TreeDocument v bs) :
    Review.decode bs = .ok r ↔ Review.ofTree v = some r ∧ r.problem? = none := by
  rw [Review.decode_eq_ok, Review.ofBytes, Review.means_reader.document hdoc]

/-- Two trees that are taken for the same make the same reply. -/
theorem Review.decode_congr {v v' : Tree} {bs' : Bytes}
    (h : Review.ofTree v' = Review.ofTree v) (hdoc : TreeDocument v bs)
    (hdoc' : TreeDocument v' bs') (r : Review) :
    Review.decode bs = .ok r ↔ Review.decode bs' = .ok r := by
  rw [Review.decode_document hdoc, Review.decode_document hdoc', h]

theorem Review.decode_of_ofTree_eq_none {v : Tree} (h : Review.ofTree v = none)
    (hdoc : TreeDocument v bs) (r : Review) : Review.decode bs ≠ .ok r := by
  intro hr
  obtain ⟨hof, -⟩ := (Review.decode_document hdoc).mp hr
  rw [h] at hof
  cases hof

theorem Review.document_of_decode (h : Review.decode bs = .ok r) : ∃ v, TreeDocument v bs :=
  Review.means_reader.tree_of_document (Review.decode_eq_ok.mp h).1

/-! ### Where a reply ends -/

/--
**Nothing but white space may follow a reply.**

Behind a reply that is accepted, a reply that is accepted again has white space only, and
then it is the same review.  So no reply that was cut off is accepted, unless all that is
missing is white space at its end.
-/
theorem Review.decode_append (b s : Bytes) (r r' : Review) (h : Review.decode b = .ok r) :
    Review.decode (b ++ s) = .ok r' ↔ r' = r ∧ ∀ c ∈ s, isBlank c = true := by
  obtain ⟨hread, hproblem⟩ := Review.decode_eq_ok.mp h
  obtain ⟨t, hrun, ht⟩ := Reader.document_eq_ok.mp hread
  obtain ⟨v, s', hs, hv⟩ := Review.means_reader.tree hrun
  -- The same tree stands in front of what follows, so the reader comes to the same.
  have hsame : Review.reader.run (b ++ s) = .ok (r, t ++ s) := by
    have hanswer := Reader.answer_of_run hrun
    rw [Review.answer_reader hs hv] at hanswer
    obtain ⟨r₁, hr₁, heq⟩ := Option.map_eq_some_iff.mp hanswer
    cases heq
    refine Reader.run_of_answer ?_
    rw [Review.answer_reader (hs.append s) (hv.append s), hr₁]
    rfl
  rw [Review.decode_eq_ok, Review.ofBytes, Reader.document_eq_ok, hsame]
  rw [blanks_nil_iff] at ht
  constructor
  · rintro ⟨⟨t', heq, ht'⟩, -⟩
    cases heq
    exact ⟨rfl, (List.forall_mem_append.mp (blanks_nil_iff.mp ht')).2⟩
  · rintro ⟨rfl, hblank⟩
    exact ⟨⟨_, rfl, blanks_nil_iff.mpr (List.forall_mem_append.mpr ⟨ht, hblank⟩)⟩, hproblem⟩

/-- A reply that lists its values, as far as it goes. -/
def listedBody : Bytes :=
  Text.bytes "[\"a\", []]"

def listedReview : Review :=
  ⟨"a", [], none, none, none, none⟩

theorem Review.decode_append_listed :
    Review.decode listedBody = .ok listedReview ∧
    Review.decode (listedBody ++ Text.bytes " \n") = .ok listedReview ∧
    ∀ r : Review, Review.decode (listedBody ++ Text.bytes "]") ≠ .ok r := by
  have hdoc : TreeDocument (.list [.text (some "a"), .list []]) listedBody := by
    have htext : TextOf "a" (Text.bytes "a\"" ++ Text.bytes ", []]") (Text.bytes ", []]") :=
      .plain (by decide) (by decide) (by decide) .close
    refine ⟨_, [], .none, .list (.first .none (.text (x := some "a") htext) ?_), .none⟩
    exact .comma .none (.more rfl .none) (.list (.empty .none)) (.close .none)
  have hdecode : Review.decode listedBody = .ok listedReview :=
    (Review.decode_document hdoc).mpr ⟨rfl, rfl⟩
  have hspace : ∀ c ∈ Text.bytes " \n", isBlank c = true := List.all_eq_true.mp (by decide)
  refine ⟨hdecode, (Review.decode_append _ _ _ _ hdecode).mpr ⟨rfl, hspace⟩, fun r h => ?_⟩
  have hblank := ((Review.decode_append _ _ _ _ hdecode).mp h).2
  exact absurd (List.all_eq_true.mpr hblank) (by decide)

end ReviewDesk
