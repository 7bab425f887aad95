/-
How a score is presented.

Scores fall into three buckets.  A bucket decides the words and the colours of the card
that shows the score; the bounds are here alone.
-/
import ReviewDesk.Json.Basic

namespace ReviewDesk.Display

/-- How good a score is. -/
inductive Bucket where
  | good
  | moderate
  | poor
  deriving DecidableEq, Repr

/-- The lowest good score. -/
def goodFrom : UInt8 := 80

/-- The lowest moderate score. -/
def moderateFrom : UInt8 := 60

namespace Bucket

/-- The bucket that a score falls into. -/
def ofScore (score : UInt8) : Bucket :=
  if goodFrom ≤ score then .good
  else if moderateFrom ≤ score then .moderate
  else .poor

def name : Bucket → String
  | .good => "good"
  | .moderate => "moderate"
  | .poor => "poor"

/-- Style of the figure. -/
def colorClass : Bucket → String
  | .good => "text-green-400"
  | .moderate => "text-yellow-400"
  | .poor => "text-red-400"

/-- Style of the card behind the figure. -/
def gradientClass : Bucket → String
  | .good => "from-green-600 to-green-400"
  | .moderate => "from-yellow-600 to-yellow-400"
  | .poor => "from-red-600 to-red-400"

end Bucket

/-- A score as it is presented. -/
structure ScoreCard where
  score : UInt8
  bucket : Bucket
  deriving DecidableEq, Repr

namespace ScoreCard

def ofScore (score : UInt8) : ScoreCard :=
  ⟨score, .ofScore score⟩

def toJson (c : ScoreCard) : Json :=
  .object [
    ("score", .ofNat c.score.toNat),
    ("bucket", .text c.bucket.name),
    ("color_class", .text c.bucket.colorClass),
    ("gradient_class", .text c.bucket.gradientClass)]

end ScoreCard

end ReviewDesk.Display
