/-
Tables of the character database, in the form they are written here.

A table is a list of entries, and an entry has up to twenty code points.  It is written as
one number in which every code point takes five hexadecimal places, divided by low lines:
a table that large is data to be read, not terms to be built one by one.
-/
import ReviewDesk.Text.Ranges

namespace ReviewDesk.Url.Domain

/-- The last `k` code points in a number, less than that if there are no more. -/
def fields : Nat → Nat → List Nat
  | 0, _ => []
  | k + 1, n => if n = 0 then [] else fields k (n / 0x100000) ++ [n % 0x100000]

/-- The entries of a table. -/
def entries (table : List Nat) : List (List Nat) :=
  table.map (fields 20)

/-- The entries of a table of ranges; a single code point is a range of one. -/
def ranges (table : List Nat) : Text.Ranges :=
  (entries table).filterMap fun
    | [n] => some (n, n)
    | [first, last] => some (first, last)
    | _ => none

end ReviewDesk.Url.Domain
