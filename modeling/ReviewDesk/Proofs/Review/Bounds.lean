/-
Only reviews that keep their bounds are shown.

What the bounds are is said here once more, without `problem?`: a score is at most 100 and
a line length is a finite number that is not below zero, which negative zero is not.  Which
bound is named when several are broken is part of it (`FirstBroken`).  The two accounts are
shown to agree, and then a reply is a review exactly if it is one in form and in bounds
(`Review.decode_eq_ok_iff`), and any other is a failure to decode that names what is wrong.

That nothing else gets to the screen needs no invariant of its own: a review that is shown
was the body of a reply (`Desk.served_review`).
-/
import ReviewDesk.Proofs.Desk.Served
import ReviewDesk.Proofs.Documents
import ReviewDesk.Proofs.Review.Body

namespace ReviewDesk

open Json

/-! ### Line lengths -/

/-- Finite, and not below zero. -/
def LengthInBounds (x : Float) : Prop :=
  x.isFinite = true ∧ ¬ x < 0.0

theorem isLength_iff {x : Float} : isLength x = true ↔ LengthInBounds x := by
  simp [isLength, LengthInBounds]

theorem unpack_zero : (0.0 : Float).toModel.unpack = .zero .positive := by
  have hzero : (match (0.0 : Float).toModel.unpack with
      | .zero .positive => true
      | _ => false) = true := by decide +kernel
  split at hzero
  · next h => exact h
  · cases hzero

/-- Zero, of either sign, or positive and finite. -/
def UnpackedLength (u : Float.Model.UnpackedFloat) : Prop :=
  (∃ sign, u = .zero sign) ∨ ∃ m e hm, u = .finite .positive m e hm

theorem unpackedLength_iff (u : Float.Model.UnpackedFloat) :
    u.isFinite = true ∧ ¬ u.lt (.zero .positive) = true ↔ UnpackedLength u := by
  constructor
  · intro h
    cases u with
    | notANumber => cases h.1
    | infinity sign => cases h.1
    | zero sign => exact Or.inl ⟨sign, rfl⟩
    | finite sign m e hm =>
        cases sign with
        | positive => exact Or.inr ⟨m, e, hm, rfl⟩
        | negative => exact absurd rfl h.2
  · intro h
    rcases h with ⟨sign, rfl⟩ | ⟨m, e, hm, rfl⟩
    · cases sign <;> exact ⟨rfl, Bool.false_ne_true⟩
    · exact ⟨rfl, Bool.false_ne_true⟩

theorem lengthInBounds_iff {x : Float} : LengthInBounds x ↔ UnpackedLength x.toModel.unpack := by
  have hlt : x < 0.0 ↔ x.toModel.unpack.lt (.zero .positive) = true := by
    rw [← unpack_zero]
    show decide (x.toModel.lt (0.0 : Float).toModel = true) = true ↔ _
    rw [decide_eq_true_eq]
    rfl
  rw [← unpackedLength_iff, ← hlt]
  rfl

/-! ### Reviews -/

/-- The score and the lengths of lines are in their bounds. -/
structure Review.InBounds (r : Review) : Prop where
  score : ∀ n ∈ r.qualityScore, n.toNat ≤ 100
  maxLength : ∀ m ∈ r.metrics, LengthInBounds m.maxLineLength
  avgLength : ∀ m ∈ r.metrics, LengthInBounds m.avgLineLength

/-- What is said of the first bound that a review breaks: the score comes before the longest
line, and that before the average. -/
inductive Review.FirstBroken (r : Review) : String → Prop
  | score {n : UInt8} (hn : r.qualityScore = some n) (h : 100 < n.toNat) :
      FirstBroken r ("quality_score " ++ Decimal.ofNat n.toNat ++ " is outside 0-100")
  | maxLength {m : Metrics} (hscore : ∀ n ∈ r.qualityScore, n.toNat ≤ 100)
      (hm : r.metrics = some m) (h : ¬ LengthInBounds m.maxLineLength) :
      FirstBroken r "max_line_length must be non-negative"
  | avgLength {m : Metrics} (hscore : ∀ n ∈ r.qualityScore, n.toNat ≤ 100)
      (hm : r.metrics = some m) (hmax : LengthInBounds m.maxLineLength)
      (h : ¬ LengthInBounds m.avgLineLength) :
      FirstBroken r "avg_line_length must be non-negative"

theorem Review.FirstBroken.not_inBounds {r : Review} {reason : String}
    (h : r.FirstBroken reason) : ¬ r.InBounds := by
  intro hbounds
  cases h with
  | score hn h =>
      have hle := hbounds.score _ hn
      omega
  | maxLength hscore hm h => exact h (hbounds.maxLength _ hm)
  | avgLength hscore hm hmax h => exact h (hbounds.avgLength _ hm)

theorem Review.Problem.message_score (n : UInt8) : (Problem.score n).message =
    "quality_score " ++ Decimal.ofNat n.toNat ++ " is outside 0-100" := by
  have hdigits : Decimal.digits 100 = ['1', '0', '0'] := by
    simp [Decimal.digits, Decimal.digitChar]
  have htail : " is outside 0-" ++ Decimal.ofNat maxQualityScore.toNat = " is outside 0-100" := by
    show " is outside 0-" ++ String.ofList (Decimal.digits 100) = _
    rw [hdigits]
    rfl
  unfold message
  dsimp only
  rw [String.append_assoc, htail]

theorem lt_maxQualityScore {n : UInt8} : maxQualityScore < n ↔ 100 < n.toNat :=
  UInt8.lt_iff_toNat_lt

/-- The lengths are looked at in this order. -/
theorem Metrics.problem?_cases (m : Metrics) :
    (m.problem? = none ∧ LengthInBounds m.maxLineLength ∧ LengthInBounds m.avgLineLength) ∨
    (m.problem? = some (.length "max_line_length") ∧ ¬ LengthInBounds m.maxLineLength) ∨
    (m.problem? = some (.length "avg_line_length") ∧ LengthInBounds m.maxLineLength ∧
      ¬ LengthInBounds m.avgLineLength) := by
  unfold Metrics.problem?
  rw [← isLength_iff, ← isLength_iff]
  by_cases hmax : isLength m.maxLineLength = true
  · by_cases havg : isLength m.avgLineLength = true
    · simp [hmax, havg]
    · simp [hmax, havg]
  · simp [hmax]

/-- Without a score that is too high, the metrics are all there is to look at. -/
theorem Review.problem?_of_score {r : Review} (h : ∀ n ∈ r.qualityScore, n.toNat ≤ 100) :
    r.problem? = r.metrics.bind Metrics.problem? := by
  unfold Review.problem?
  cases hscore : r.qualityScore with
  | none => rfl
  | some n =>
      have hle : n.toNat ≤ 100 := h n hscore
      have hnot : ¬ maxQualityScore < n := by
        rw [lt_maxQualityScore]
        omega
      show (if maxQualityScore < n then _ else _) = _
      rw [if_neg hnot]

/-- A review keeps its bounds, or there is a first one that it breaks and that is the problem. -/
theorem Review.problem?_cases (r : Review) :
    (r.problem? = none ∧ r.InBounds) ∨
    ∃ p, r.problem? = some p ∧ r.FirstBroken p.message := by
  by_cases hscore : ∀ n ∈ r.qualityScore, n.toNat ≤ 100
  · rw [problem?_of_score hscore]
    cases hm : r.metrics with
    | none => exact Or.inl ⟨rfl, hscore, by simp [hm], by simp [hm]⟩
    | some m =>
        rw [Option.bind_some]
        rcases m.problem?_cases with ⟨hnone, hmax, havg⟩ | ⟨hproblem, hmax⟩ |
          ⟨hproblem, hmax, havg⟩
        · exact Or.inl ⟨hnone, hscore, by simpa [hm] using hmax, by simpa [hm] using havg⟩
        · exact Or.inr ⟨_, hproblem, .maxLength hscore hm hmax⟩
        · exact Or.inr ⟨_, hproblem, .avgLength hscore hm hmax havg⟩
  · simp only [not_forall, Nat.not_le] at hscore
    obtain ⟨n, hn, hlt⟩ := hscore
    have hproblem : r.problem? = some (.score n) := by
      unfold Review.problem?
      rw [hn]
      exact if_pos (lt_maxQualityScore.mpr hlt)
    refine Or.inr ⟨_, hproblem, ?_⟩
    rw [Problem.message_score]
    exact .score hn hlt

theorem Review.problem?_eq_none_iff {r : Review} : r.problem? = none ↔ r.InBounds := by
  rcases r.problem?_cases with ⟨hnone, hbounds⟩ | ⟨p, hproblem, hbroken⟩
  · exact iff_of_true hnone hbounds
  · exact iff_of_false (by simp [hproblem]) hbroken.not_inBounds

/-! ### Replies -/

/-- The body of a reply has the form of this review, in bounds or not. -/
def Review.Structured (bs : Bytes) (r : Review) : Prop :=
  ∃ v, TreeDocument v bs ∧ Review.ofTree v = some r

variable {bs : Bytes} {r : Review}

theorem Review.ofBytes_eq_ok_iff : Review.ofBytes bs = .ok r ↔ Structured bs r := by
  constructor
  · intro h
    obtain ⟨v, hdoc⟩ := Review.means_reader.tree_of_document h
    exact ⟨v, hdoc, (Review.means_reader.document hdoc).mp h⟩
  · rintro ⟨v, hdoc, hv⟩
    exact (Review.means_reader.document hdoc).mpr hv

theorem Review.decode_eq_ok_iff : Review.decode bs = .ok r ↔ Structured bs r ∧ r.InBounds := by
  rw [Review.decode_eq_ok, ofBytes_eq_ok_iff, problem?_eq_none_iff]

/-- A body in the form of a review that breaks a bound is refused with the first of them. -/
theorem Review.decode_of_not_inBounds (h : Structured bs r) (hbounds : ¬ r.InBounds) :
    ∃ reason, r.FirstBroken reason ∧ Service.decodeReview bs = .error (.decode reason) := by
  rcases r.problem?_cases with ⟨-, hkept⟩ | ⟨p, hproblem, hbroken⟩
  · exact absurd hkept hbounds
  · refine ⟨p.message, hbroken, ?_⟩
    unfold Service.decodeReview Review.decode
    rw [ofBytes_eq_ok_iff.mpr h]
    dsimp only
    rw [hproblem]
    rfl

/-- A body that is no review is a failure to decode. -/
theorem Review.decode_of_not_ok (h : ¬ ∃ r, Review.decode bs = .ok r) :
    ∃ reason, Service.decodeReview bs = .error (.decode reason) := by
  unfold Service.decodeReview
  cases hdecode : Review.decode bs with
  | ok r => exact absurd ⟨r, hdecode⟩ h
  | error refusal => exact ⟨refusal.message, rfl⟩

/--
**Only reviews that keep their bounds are shown, and nothing else is kept out.**

At a desk with the service behind it, whatever happens and whatever is replied, a review
that is shown keeps its bounds.  A body is taken for a review exactly if it has the form of
one and that keeps its bounds.  Every other body is a failure to decode, and if it has the
form of a review then what it says is the first bound that is broken.  A line length keeps
its bounds if it is a zero of either sign or positive and finite.
-/
theorem Review.only_in_bounds_shown (url : Url) :
    (∀ (evs : List Desk.Event) (code : String) (r : Review),
      (Desk.new.served url evs).1.state = .success code r → r.InBounds) ∧
    (∀ (bs : Bytes) (r : Review), Review.decode bs = .ok r ↔ Structured bs r ∧ r.InBounds) ∧
    (∀ bs : Bytes, (¬ ∃ r, Review.decode bs = .ok r) →
      ∃ reason, Service.decodeReview bs = .error (.decode reason)) ∧
    (∀ (bs : Bytes) (r : Review), Structured bs r → ¬ r.InBounds →
      ∃ reason, r.FirstBroken reason ∧ Service.decodeReview bs = .error (.decode reason)) ∧
    (∀ x : Float, LengthInBounds x ↔ (∃ sign, x.toModel.unpack = .zero sign) ∨
      ∃ m e hm, x.toModel.unpack = .finite .positive m e hm) := by
  refine ⟨?_, fun bs r => decode_eq_ok_iff, fun bs => decode_of_not_ok,
    fun bs r => decode_of_not_inBounds, fun x => lengthInBounds_iff⟩
  intro evs code r hstate
  have hshown : (Desk.new.served url evs).1.state.review? = some r := by
    rw [hstate]
    rfl
  rcases Desk.served_review hshown with hnew | ⟨id, e, request, -, hreview⟩
  · cases hnew
  · rw [Service.review_eq, Service.received_eq_ok] at hreview
    obtain ⟨status, bs, -, -, hdecode⟩ := hreview
    exact (decode_eq_ok_iff.mp (Service.mapError_eq_ok.mp hdecode)).2

/-- A review with this score, and with a length that is a negative zero. -/
def scoredReview (score : UInt8) : Review :=
  ⟨"Looks fine", [], some score, none, some ⟨1, 1, 0, 0, -0.0, 0.0⟩, none⟩

def scoredBody (score : UInt8) : Bytes :=
  Text.bytes (scoredReview score).toJson.compact

theorem structured_scoredBody (score : UInt8) :
    Review.Structured (scoredBody score) (scoredReview score) := by
  have hmetrics : (⟨1, 1, 0, 0, -0.0, 0.0⟩ : Metrics).toJson.Exact :=
    Metrics.exact (Option.isNone_iff_eq_none.mp (by decide +kernel))
      ⟨by decide +kernel, by decide +kernel⟩
  have hexact : (scoredReview score).toJson.Exact := by
    refine Review.exact_of_metrics fun m hm => ?_
    obtain rfl := Option.some.inj hm
    exact hmetrics
  have hread := (scoredReview score).reads.document (document_compact hexact)
  exact Review.ofBytes_eq_ok_iff.mp hread

/-- The highest score there may be is shown, and one point more is refused. -/
theorem Review.only_in_bounds_shown_scores :
    let url : Url := ⟨.http, ⟨[], []⟩, .domain "localhost".toList, some 8000, ["review".toList]⟩
    let evs : List Desk.Event :=
      [.setCode "x", .submit, .ended 0 (.answered 200 (some (scoredBody 100)))]
    ((Desk.new.served url evs).1.state = .success "x" (scoredReview 100) ∧
      (scoredReview 100).InBounds) ∧
    (¬ (scoredReview 101).InBounds ∧ ∃ reason, (scoredReview 101).FirstBroken reason ∧
      Service.decodeReview (scoredBody 101) = .error (.decode reason)) ∧
    ((¬ ∃ r, Review.decode [] = .ok r) ∧
      ∃ reason, Service.decodeReview [] = .error (.decode reason)) := by
  intro url evs
  have hkept : (scoredReview 100).InBounds :=
    problem?_eq_none_iff.mp (Option.isNone_iff_eq_none.mp (by decide +kernel))
  have hbroken : ¬ (scoredReview 101).InBounds := by
    intro hbounds
    have hle : (101 : UInt8).toNat ≤ 100 := hbounds.score 101 rfl
    exact absurd hle (by decide)
  have hempty : ¬ ∃ r, Review.decode [] = .ok r := by
    rintro ⟨r, h⟩
    cases h
  have hdecode : Review.decode (scoredBody 100) = .ok (scoredReview 100) :=
    ((only_in_bounds_shown url).2.1 _ _).mpr ⟨structured_scoredBody 100, hkept⟩
  have hstate : (Desk.new.served url evs).1.state = .success "x" (scoredReview 100) := by
    let request : Request := ⟨"x", by decide⟩
    have hsubmission := Desk.served_submission url History.nil rfl request
      (.answered 200 (some (scoredBody 100)))
    have hreview : Service.review (Service.reviewRequest url request)
        (.answered 200 (some (scoredBody 100))) = .ok (scoredReview 100) := by
      rw [Service.review_eq, Service.received_eq_ok]
      exact ⟨200, _, rfl, by decide, Service.mapError_eq_ok.mpr hdecode⟩
    rw [hreview] at hsubmission
    exact hsubmission
  exact ⟨⟨hstate, (only_in_bounds_shown url).1 evs "x" _ hstate⟩,
    ⟨hbroken, (only_in_bounds_shown url).2.2.2.1 _ _ (structured_scoredBody 101) hbroken⟩,
    hempty, (only_in_bounds_shown url).2.2.1 _ hempty⟩

end ReviewDesk
