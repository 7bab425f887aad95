/-
Paths.

A path is a list of segments, at least one; the root is one empty segment, and a path
that ends in a slash ends in an empty segment.  Reading a path never leaves a segment
that means "here" or "one up": the first is dropped, the second takes away the segment
before it, unless that is a drive letter.
-/
import ReviewDesk.Url.Percent
import ReviewDesk.Text.Split

namespace ReviewDesk.Url

/-- What stands between two slashes, encoded. -/
abbrev Segment := List Char

namespace Path

/-- One segment, and it is empty. -/
def root : List Segment := [[]]

/-- A dot, as itself or encoded. -/
def dotted : List Segment :=
  [['.'], "%2e".toList, "%2E".toList]

/-- The segment means "here". -/
def isHere (s : Segment) : Bool :=
  dotted.contains s

/-- The segment means "one up". -/
def isUp (s : Segment) : Bool :=
  dotted.any fun a => dotted.any fun b => s == a ++ b

/-- A letter and a colon or a bar: a segment that stays. -/
def isDrive : Segment → Bool
  | [c, d] => c.isAlpha && (d == ':' || d == '|')
  | _ => false

/-- Takes away the last segment. -/
def up (done : List Segment) : List Segment :=
  if (done.getLast?.map isDrive).getD false then done else done.dropLast

/-- A segment that is followed by another. -/
def push (done : List Segment) (s : Segment) : List Segment :=
  if isUp s then up done
  else if isHere s then done
  else done ++ [s]

/-- The last segment. -/
def finish (done : List Segment) (s : Segment) : List Segment :=
  if isUp s then up done ++ [[]]
  else if isHere s then done ++ [[]]
  else done ++ [s]

/-- The path that a list of segments, as written, comes to. -/
def ofSegments (done : List Segment) : List Segment → List Segment
  | [] => finish done []
  | [s] => finish done s
  | s :: ss => ofSegments (push done s) ss

/-- The path after the host: what stands before the first slash is not there, a
backslash counts as a slash. -/
def parse (s : List Char) : List Segment :=
  let slashed := s.map fun c => if c = '\\' then '/' else c
  let written := match slashed with
    | '/' :: r => r
    | r => r
  ofSegments [] ((Text.split '/' written).map (percentEncode pathSet))

/-- A path in writing: a slash before every segment. -/
def chars (path : List Segment) : List Char :=
  path.flatMap ('/' :: ·)

/-! ### Appending -/

/-- The path less an empty segment at its end; the root stays. -/
def trimmed (path : List Segment) : List Segment :=
  if path.length ≠ 1 ∧ path.getLast? = some [] then path.dropLast else path

/-- Tabs and line ends do not count as part of a URL. -/
def isDropped (c : Char) : Bool :=
  c == '\t' || c == '\n' || c == '\r'

/-- Appends one piece.  The root is not a segment to append to. -/
def append (path : List Segment) (piece : List Char) : List Segment :=
  let done := if path = root then [] else path
  finish done (percentEncode segmentSet (piece.filter (!isDropped ·)))

/-- The pieces of a path to append: what stands between slashes and names something. -/
def pieces (s : List Char) : List (List Char) :=
  (Text.split '/' s).filter fun p => !p.isEmpty && p != ['.'] && p != ['.', '.']

/-- The path with the pieces of a text appended. -/
def join (path : List Segment) (s : List Char) : List Segment :=
  (pieces s).foldl append (trimmed path)

end Path

end ReviewDesk.Url
