/-
Reviews.

A review is what the service answers to a request: a text, suggestions in the order in
which they are to be shown, and what else the service chose to report.

The bounds on a review are stated once, in `problem?`: a score is at most 100, a line
length is a finite number and not negative.  Negative zero is not negative.
-/
import ReviewDesk.Decimal.Text

namespace ReviewDesk

/-- Size and composition of the reviewed code.  Lines may count in more than one class,
so the counts need not add up. -/
structure Metrics where
  totalLines : UInt64
  codeLines : UInt64
  commentLines : UInt64
  blankLines : UInt64
  maxLineLength : Float
  avgLineLength : Float

/-- What the service answers; what it did not report is not there. -/
structure Review where
  review : String
  suggestions : List String
  qualityScore : Option UInt8
  language : Option String
  metrics : Option Metrics
  issuesCount : Option UInt64

/-- The highest score a service may report. -/
def maxQualityScore : UInt8 := 100

/-- A bound that a review does not keep. -/
inductive Review.Problem where
  | score (n : UInt8)
  | length (name : String)

/-- The bound in words. -/
def Review.Problem.message : Review.Problem → String
  | .score n =>
    "quality_score " ++ Decimal.ofNat n.toNat ++ " is outside 0-"
      ++ Decimal.ofNat maxQualityScore.toNat
  | .length name => name ++ " must be non-negative"

/-- Whether a number can be the length of a line. -/
def isLength (x : Float) : Bool :=
  x.isFinite && !(x < 0.0)

/-- The first of the lengths that is none. -/
def Metrics.problem? (m : Metrics) : Option Review.Problem :=
  if !isLength m.maxLineLength then some (.length "max_line_length")
  else if !isLength m.avgLineLength then some (.length "avg_line_length")
  else none

/-- The first bound that a review does not keep: the score comes before the lengths. -/
def Review.problem? (r : Review) : Option Review.Problem :=
  match r.qualityScore with
  | some score =>
    if maxQualityScore < score then some (.score score)
    else r.metrics.bind Metrics.problem?
  | none => r.metrics.bind Metrics.problem?

/-- Issues for display: no report means none. -/
def Review.issues (r : Review) : UInt64 :=
  r.issuesCount.getD 0

end ReviewDesk
