/-
The label of a language: its name with the first character in upper case.

The upper case of one character may be several, and all of them are kept.  A language
without a name has no label.
-/
import ReviewDesk.Text.Uppercase

namespace ReviewDesk.Display

/-- The label of a language, if it has a name. -/
def label? (language : String) : Option String :=
  match language.toList with
  | [] => none
  | c :: rest => some (String.ofList (Text.upper c ++ rest))

end ReviewDesk.Display
