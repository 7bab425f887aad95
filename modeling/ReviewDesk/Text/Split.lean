/-
Cutting at every separator.

A separator always divides: before the first and after the last one there is a part
too, which may be empty.
-/

namespace ReviewDesk.Text

/-- The parts between separators; there is always at least one. -/
def split {α : Type} [DecidableEq α] (sep : α) : List α → List (List α)
  | [] => [[]]
  | c :: cs =>
    if c = sep then [] :: split sep cs
    else
      match split sep cs with
      | [] => [[c]]
      | p :: ps => (c :: p) :: ps

end ReviewDesk.Text
