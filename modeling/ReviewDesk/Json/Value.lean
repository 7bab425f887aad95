/-
Reading a value of any kind.

Lists and objects may be nested; the reader goes down with a limit, so that a document
of brackets alone is refused rather than followed for ever.  An object keeps all its
members in order, a key that occurs twice included.
-/
import ReviewDesk.Json.Basic
import ReviewDesk.Json.Brackets

namespace ReviewDesk.Json

/-- How deep brackets may be nested in a value of any kind. -/
def depthLimit : Nat := 127

namespace Reader

/-- The rest of a member, put in front of those before it. -/
def memberOf (item : Reader Json) (k : String) (before : List (String × Json)) :
    Reader (List (String × Json)) := do
  colon
  let v ← item
  pure ((k, v) :: before)

/-- A value with at most `depth` levels of brackets. -/
def value (depth : Nat) : Reader Json := do
  let _ ← blanks
  match ← peek with
  | none => fail (.unfinished .value)
  | some b =>
    if b == ascii '-' || isDigit b then do
      let n ← number
      pure (.num n)
    else do
      skip
      if b == ascii 'n' then do
        word ['u', 'l', 'l']
        pure .null
      else if b == ascii 't' then do
        word ['r', 'u', 'e']
        pure (.bool true)
      else if b == ascii 'f' then do
        word ['a', 'l', 's', 'e']
        pure (.bool false)
      else if b == ascii '"' then do
        let s ← text
        pure (.text s)
      else if b == ascii '[' || b == ascii '\x7b' then
        match depth with
        | 0 => fail .nestedTooDeep
        | d + 1 =>
          if b == ascii '[' then do
            let items ← list (value d)
            pure (.list items)
          else do
            let ms ← members (memberOf (value d)) []
            pure (.object ms.reverse)
      else fail .expectedValue

end Reader

/-- A document of any kind. -/
def parse (bs : Bytes) : Except Misread Json :=
  (Reader.value depthLimit).document bs

end ReviewDesk.Json
