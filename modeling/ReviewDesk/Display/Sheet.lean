/-
What is shown of a review.

A sheet has only what there is to show: a part the service did not report is left out,
and so is the list of suggestions when it is empty.  Of the metrics three counts are
shown, and the number of issues beside them.
-/
import ReviewDesk.Display.Score
import ReviewDesk.Display.Label
import ReviewDesk.Review.Basic

namespace ReviewDesk.Display

/-- A suggestion with its number. -/
structure Suggestion where
  /-- Counted from one. -/
  index : Nat
  text : String
  deriving DecidableEq, Repr

/-- A figure with its label. -/
structure Cell where
  label : String
  value : UInt64
  deriving DecidableEq, Repr

/-- Four figures, in two rows of two. -/
structure Grid where
  total : UInt64
  code : UInt64
  comment : UInt64
  issues : UInt64
  deriving DecidableEq, Repr

/-- What is shown of a review; a part that is not there is not shown. -/
structure Sheet where
  review : String
  score : Option ScoreCard
  language : Option String
  suggestions : List Suggestion
  grid : Option Grid
  deriving DecidableEq, Repr

/-- The rows with their labels. -/
def Grid.rows (g : Grid) : List (List Cell) :=
  [ [⟨"Total Lines", g.total⟩, ⟨"Code Lines", g.code⟩],
    [⟨"Comments", g.comment⟩, ⟨"Issues Found", g.issues⟩] ]

/-- Suggestions numbered from `n` on. -/
def numberedFrom (n : Nat) : List String → List Suggestion
  | [] => []
  | s :: ss => ⟨n, s⟩ :: numberedFrom (n + 1) ss

namespace Sheet

/-- What there is to show of a review. -/
def ofReview (r : Review) : Sheet where
  review := r.review
  score := r.qualityScore.map .ofScore
  language := r.language.bind label?
  suggestions := numberedFrom 1 r.suggestions
  grid := r.metrics.map fun m => ⟨m.totalLines, m.codeLines, m.commentLines, r.issues⟩

/-- The heading of the suggestions, if there are any. -/
def heading? (s : Sheet) : Option String :=
  if s.suggestions.isEmpty then none
  else some ("Suggestions (" ++ Decimal.ofNat s.suggestions.length ++ ")")

end Sheet

/-! ### As a document -/

def Suggestion.toJson (s : Suggestion) : Json :=
  .object [("index", .ofNat s.index), ("text", .text s.text)]

def Cell.toJson (c : Cell) : Json :=
  .object [("label", .text c.label), ("value", .ofNat c.value.toNat)]

def Grid.toJson (g : Grid) : Json :=
  .list (g.rows.flatten.map Cell.toJson)

namespace Sheet

/-- The members of the document; what is not there has none. -/
def members (s : Sheet) : List (String × Json) :=
  [("review", .text s.review)]
    ++ Json.member? "score" ScoreCard.toJson s.score
    ++ Json.member? "language" .text s.language
    ++ (if s.suggestions.isEmpty then []
        else [("suggestions", .list (s.suggestions.map Suggestion.toJson))])
    ++ Json.member? "metrics" Grid.toJson s.grid

def toJson (s : Sheet) : Json :=
  .object s.members

end Sheet

/-! ### As text -/

/-- A text on a line of its own. -/
def line (s : List Char) : List Char :=
  s ++ ['\n']

/-- At least `width` characters, the text at the left. -/
def padRight (width : Nat) (s : List Char) : List Char :=
  s ++ List.replicate (width - s.length) ' '

/-- At least `width` characters, the text at the right. -/
def padLeft (width : Nat) (s : List Char) : List Char :=
  List.replicate (width - s.length) ' ' ++ s

/-- A blank line, and the score with the name of its bucket. -/
def ScoreCard.lines (c : ScoreCard) : List Char :=
  line [] ++ line ("Code Quality Score: ".toList ++ Decimal.digits c.score.toNat
    ++ "/100 (".toList ++ c.bucket.name.toList ++ [')'])

/-- The suggestion behind its number. -/
def Suggestion.line (s : Suggestion) : List Char :=
  Display.line ([' ', ' '] ++ Decimal.digits s.index ++ ['.', ' '] ++ s.text.toList)

/-- Label and figure, each in its column. -/
def Cell.chars (c : Cell) : List Char :=
  padRight 14 c.label.toList ++ padLeft 6 (Decimal.digits c.value.toNat)

/-- The cells of a row, four spaces apart. -/
def rowLine (row : List Cell) : List Char :=
  line ([' ', ' '] ++ List.intercalate (List.replicate 4 ' ') (row.map Cell.chars))

/-- A blank line, and the rows. -/
def Grid.lines (g : Grid) : List Char :=
  line [] ++ g.rows.flatMap rowLine

namespace Sheet

/-- The language, if it has a label. -/
def languageLine (s : Sheet) : List Char :=
  match s.language with
  | none => []
  | some l => line ("Language: ".toList ++ l.toList)

/-- A blank line, the heading and the suggestions, if there are any. -/
def suggestionLines (s : Sheet) : List Char :=
  match s.heading? with
  | none => []
  | some h => line [] ++ line h.toList ++ s.suggestions.flatMap Suggestion.line

/-- The sheet in print: heading, score, language, review, suggestions, figures. -/
def chars (s : Sheet) : List Char :=
  line "Review Results".toList ++ line "==============".toList
    ++ (s.score.map ScoreCard.lines).getD []
    ++ s.languageLine
    ++ line [] ++ line s.review.toList
    ++ s.suggestionLines
    ++ (s.grid.map Grid.lines).getD []

def toText (s : Sheet) : String :=
  String.ofList s.chars

end Sheet

end ReviewDesk.Display
