/-
What brackets hold: the items of a list and the members of an object.

Both are read one at a time by a reader that the caller gives, so the same two loops
serve the fields of a known document and values of any kind.  A comma must be followed
by another item.
-/
import ReviewDesk.Json.Number

namespace ReviewDesk.Json.Reader

variable {α σ : Type}

/-- After an opening bracket: whether there is a first item.  The closing bracket of an
empty list is used up. -/
def firstItem : Reader Bool := do
  let _ ← blanks
  match ← peek with
  | none => fail (.unfinished .list)
  | some b => if b == ascii ']' then do skip; pure false else pure true

/-- After an item: whether there is another.  The comma, or the closing bracket, is
used up. -/
def furtherItem : Reader Bool := do
  let _ ← blanks
  let b ← next (.unfinished .list)
  if b == ascii ']' then pure false
  else if b == ascii ',' then do
    let _ ← blanks
    match ← peek with
    | none => fail (.unfinished .value)
    | some c => if c == ascii ']' then failAfterNext .trailingComma else pure true
  else fail .expectedListCommaOrEnd

/-- After the last item a list may have. -/
def closeList : Reader Unit := do
  let _ ← blanks
  let b ← next (.unfinished .list)
  if b == ascii ']' then pure ()
  else if b == ascii ',' then do
    let _ ← blanks
    if (← peek) == some (ascii ']') then failAfterNext .trailingComma
    else failAfterNext .trailingCharacters
  else fail .trailingCharacters

theorem strict_furtherItem : furtherItem.Strict :=
  strict_bind _ fun _ => (strict_next _).bind _

/-- An item that is not the first, or the end; `items` holds those before it, last
first. -/
def listStep (item : Reader α) (items : List α) : Reader (List α ⊕ List α) := do
  if ← furtherItem then do
    let v ← item
    pure (.inl (v :: items))
  else pure (.inr items.reverse)

/-- The items of a list, from after its opening bracket. -/
def list (item : Reader α) : Reader (List α) := do
  if ← firstItem then do
    let v ← item
    iterate (listStep item) (fun _ => strict_furtherItem.bind _) [v]
  else pure []

/-- A key, from its opening quotation mark, if one is there. -/
def key (read : Reader α) (atEnd : Unfinished) : Reader α := do
  let _ ← blanks
  let b ← next (.unfinished atEnd)
  if b == ascii '"' then read else fail .keyMustBeText

/-- The colon between a key and its value. -/
def colon : Reader Unit := do
  let _ ← blanks
  let b ← next (.unfinished .object)
  if b == ascii ':' then pure () else fail .expectedColon

/-- After an opening brace: whether there is a first member. -/
def firstMember : Reader Bool := do
  let _ ← blanks
  match ← peek with
  | none => fail (.unfinished .object)
  | some b => if b == ascii '\x7d' then do skip; pure false else pure true

/-- After a member: whether there is another. -/
def furtherMember : Reader Bool := do
  let _ ← blanks
  let b ← next (.unfinished .object)
  if b == ascii '\x7d' then pure false
  else if b == ascii ',' then do
    let _ ← blanks
    if (← peek) == some (ascii '\x7d') then failAfterNext .trailingComma else pure true
  else fail .expectedObjectCommaOrEnd

theorem strict_furtherMember : furtherMember.Strict :=
  strict_bind _ fun _ => (strict_next _).bind _

/-- A member that is not the first, or the end. -/
def memberStep (member : String → σ → Reader σ) (st : σ) : Reader (σ ⊕ σ) := do
  if ← furtherMember then do
    let k ← key text .value
    let st' ← member k st
    pure (.inl st')
  else pure (.inr st)

/-- The members of an object, from after its opening brace.  `member` is given a key and
what the members before it came to, and reads on from the colon. -/
def members (member : String → σ → Reader σ) (st : σ) : Reader σ := do
  if ← firstMember then do
    let k ← key text .object
    let st' ← member k st
    iterate (memberStep member) (fun _ => strict_furtherMember.bind _) st'
  else pure st

end ReviewDesk.Json.Reader
