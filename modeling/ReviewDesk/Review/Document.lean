/-
Reviews as documents.

`toJson` writes a review and `decode` reads one.  Reading is strict about what it
knows and ignores what it does not; a review that breaks a bound is refused after it
was read in full.
-/
import ReviewDesk.Review.Basic
import ReviewDesk.Json.Record
import ReviewDesk.Json.Basic

namespace ReviewDesk

open Json

/-! ### Metrics -/

def Metrics.toJson (m : Metrics) : Json :=
  .object [
    ("total_lines", .ofNat m.totalLines.toNat),
    ("code_lines", .ofNat m.codeLines.toNat),
    ("comment_lines", .ofNat m.commentLines.toNat),
    ("blank_lines", .ofNat m.blankLines.toNat),
    ("max_line_length", .num (.double m.maxLineLength)),
    ("avg_line_length", .num (.double m.avgLineLength))]

/-- All of them have to be there. -/
def Metrics.fields : List Field :=
  [ .required "total_lines" Reader.uint64,
    .required "code_lines" Reader.uint64,
    .required "comment_lines" Reader.uint64,
    .required "blank_lines" Reader.uint64,
    .required "max_line_length" Reader.double,
    .required "avg_line_length" Reader.double ]

/-- The metrics made of their values in order. -/
def Metrics.ofRow : Row Metrics.fields → Metrics
  | (total, code, comment, blank, max, avg, _) => ⟨total, code, comment, blank, max, avg⟩

/-- Reads metrics inside a review. -/
def Metrics.reader : Reader Metrics := do
  let row ← Reader.record "Metrics" Metrics.fields
  pure (Metrics.ofRow row)

/-! ### Reviews -/

def Review.toJson (r : Review) : Json :=
  .object (
    [("review", .text r.review), ("suggestions", .list (r.suggestions.map .text))]
      ++ Json.member? "quality_score" (fun n => .ofNat n.toNat) r.qualityScore
      ++ Json.member? "language" .text r.language
      ++ Json.member? "metrics" Metrics.toJson r.metrics
      ++ Json.member? "issues_count" (fun n => .ofNat n.toNat) r.issuesCount)

/-- Only the text of the review has to be there. -/
def Review.fields : List Field :=
  [ .required "review" (Reader.textValue "a string"),
    .withDefault "suggestions" (Reader.listValue (Reader.textValue "a string")) [],
    .withDefault "quality_score" (Reader.optional Reader.uint8) none,
    .withDefault "language" (Reader.optional (Reader.textValue "a string")) none,
    .withDefault "metrics" (Reader.optional Metrics.reader) none,
    .withDefault "issues_count" (Reader.optional Reader.uint64) none ]

/-- The review made of its values in order. -/
def Review.ofRow : Row Review.fields → Review
  | (review, suggestions, score, language, metrics, issues, _) =>
    ⟨review, suggestions, score, language, metrics, issues⟩

/-- Reads a review from where it starts. -/
def Review.reader : Reader Review := do
  let row ← Reader.record "ReviewResult" Review.fields
  pure (Review.ofRow row)

/-- Reads a review without asking whether it keeps its bounds. -/
def Review.ofBytes (bs : Bytes) : Except Misread Review :=
  Review.reader.document bs

/-- Why an answer is not a review. -/
inductive Review.Refusal where
  | misread (e : Misread)
  | problem (p : Problem)

/-- What is wrong with the answer. -/
def Review.Refusal.message : Review.Refusal → String
  | .misread e => e.message
  | .problem p => p.message

/-- Reads a review that keeps its bounds. -/
def Review.decode (bs : Bytes) : Except Review.Refusal Review :=
  match Review.ofBytes bs with
  | .error e => .error (.misread e)
  | .ok r =>
    match r.problem? with
    | some p => .error (.problem p)
    | none => .ok r

end ReviewDesk
