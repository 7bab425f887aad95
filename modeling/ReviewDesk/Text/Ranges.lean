/-
Sets of characters, written as ranges of code points.

A property of the character database is a sorted list of ranges that do not touch;
membership is asked of the code point.
-/

namespace ReviewDesk.Text

/-- First and last code point of each run. -/
abbrev Ranges := List (Nat × Nat)

/-- Whether a character is in one of the runs. -/
def Ranges.contains (rs : Ranges) (c : Char) : Bool :=
  rs.any fun r => r.1 ≤ c.toNat && c.toNat ≤ r.2

end ReviewDesk.Text
