/-
Passing over a value.

A member with an unknown key may hold anything that is JSON, nested as deeply as it
likes.  The open brackets are kept in a list rather than in calls that wait for each
other, so depth costs nothing but the brackets themselves.
-/
import ReviewDesk.Json.Brackets

namespace ReviewDesk.Json

/-- What a bracket opens. -/
inductive Bracket where
  | list
  | object
  deriving DecidableEq, Repr

/-- What comes next inside the open brackets, innermost first. -/
inductive Skipping where
  /-- A value. -/
  | value (around : List Bracket)
  /-- What follows an opening bracket. -/
  | opened (b : Bracket) (around : List Bracket)
  /-- What follows a value inside a bracket. -/
  | inside (b : Bracket) (around : List Bracket)

namespace Reader

/-- A value has ended: on with the bracket around it, if there is one. -/
def skippedValue : List Bracket → Skipping ⊕ Unit
  | [] => .inr ()
  | b :: around => .inl (.inside b around)

/-- A scalar, or the opening bracket of a list or object. -/
def skipValueStep (around : List Bracket) : Reader (Skipping ⊕ Unit) := do
  let _ ← blanks
  match ← peek with
  | none => fail (.unfinished .value)
  | some b =>
    if b == ascii '-' || isDigit b then do
      let _ ← literal .invalidNumber
      pure (skippedValue around)
    else do
      let _ ← next (.unfinished .value)
      if b == ascii '[' then pure (.inl (.opened .list around))
      else if b == ascii '\x7b' then pure (.inl (.opened .object around))
      else if b == ascii '"' then do
        skipText
        pure (skippedValue around)
      else if b == ascii 'n' then do
        word ['u', 'l', 'l']
        pure (skippedValue around)
      else if b == ascii 't' then do
        word ['r', 'u', 'e']
        pure (skippedValue around)
      else if b == ascii 'f' then do
        word ['a', 'l', 's', 'e']
        pure (skippedValue around)
      else fail .expectedValue

/-- A key and its colon. -/
def skipKey : Reader Unit := do
  key skipText .object
  colon

/-- What may follow an opening bracket: the closing one, or what it holds first. -/
def skipOpenedStep (around : List Bracket) : Bracket → Reader (Skipping ⊕ Unit)
  | .list => do
    let _ ← blanks
    match ← peek with
    | none => fail (.unfinished .list)
    | some b =>
      if b == ascii ']' then do
        let _ ← next (.unfinished .list)
        pure (skippedValue around)
      else skipValueStep (.list :: around)
  | .object => do
    let _ ← blanks
    let b ← next (.unfinished .object)
    if b == ascii '\x7d' then pure (skippedValue around)
    else if b == ascii '"' then do
      skipText
      colon
      pure (.inl (.value (.object :: around)))
    else fail .keyMustBeText

/-- What may follow a value: the closing bracket, or a comma and more. -/
def skipInsideStep (around : List Bracket) : Bracket → Reader (Skipping ⊕ Unit)
  | .list => do
    let _ ← blanks
    let b ← next (.unfinished .list)
    if b == ascii ']' then pure (skippedValue around)
    else if b == ascii ',' then pure (.inl (.value (.list :: around)))
    else fail .expectedListCommaOrEnd
  | .object => do
    let _ ← blanks
    let b ← next (.unfinished .object)
    if b == ascii '\x7d' then pure (skippedValue around)
    else if b == ascii ',' then do
      skipKey
      pure (.inl (.value (.object :: around)))
    else fail .expectedObjectCommaOrEnd

/-- One step, by what comes next. -/
def skipStep : Skipping → Reader (Skipping ⊕ Unit)
  | .value around => skipValueStep around
  | .opened b around => skipOpenedStep around b
  | .inside b around => skipInsideStep around b

theorem strict_skipValueStep (around : List Bracket) : (skipValueStep around).Strict := by
  refine strict_bind _ fun _ => strict_bind _ fun o => ?_
  cases o with
  | none => exact strict_fail _
  | some b =>
    by_cases h : (b == ascii '-' || isDigit b) = true
    · simp only [h, if_true]
      exact (strict_literal _).bind _
    · simp only [h]
      exact (strict_next _).bind _

theorem strict_skipStep (st : Skipping) : (skipStep st).Strict := by
  match st with
  | .value around => exact strict_skipValueStep around
  | .opened .list around =>
    refine strict_bind _ fun _ => strict_bind _ fun o => ?_
    cases o with
    | none => exact strict_fail _
    | some b =>
      by_cases h : (b == ascii ']') = true
      · simp only [h, if_true]
        exact (strict_next _).bind _
      · simp only [h]
        exact strict_skipValueStep _
  | .opened .object around => exact strict_bind _ fun _ => (strict_next _).bind _
  | .inside .list around => exact strict_bind _ fun _ => (strict_next _).bind _
  | .inside .object around => exact strict_bind _ fun _ => (strict_next _).bind _

/-- Passes over one value of any kind. -/
def skipValue : Reader Unit :=
  iterate skipStep strict_skipStep (.value [])

end Reader

end ReviewDesk.Json
