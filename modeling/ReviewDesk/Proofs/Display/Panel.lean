/-
Panels tell each other apart.

What is printed of a panel, as a document or as a text, shows which of the four it is.
The document has the name of the panel in front, and the four names differ in their first
letters; the texts start with different letters too.  So one letter at a fixed place is all
that has to be compared, whatever a message or a review is made of.
-/
import ReviewDesk.Display.Panel
import ReviewDesk.Settings

namespace ReviewDesk.Display.Panel

variable {p q : Panel}

theorem spread_initial (p : Panel) : p.toJson.spread.toList[14]? = p.name.toList[0]? := by
  rw [Json.spread, String.toList_ofList]
  cases p <;>
    simp [toJson, name, members, Sheet.members, Json.spreadChars, Json.spreadMembers,
      Json.newLine, Json.textChars, Json.escapedChar]

theorem toText_initial (p : Panel) :
    p.toText.toList[0]? = match p with
      | .placeholder => some 'P'
      | .loading => some 'A'
      | .error _ => some 'E'
      | .review _ => some 'R' := by
  rw [toText, String.toList_ofList]
  cases p with
  | placeholder => rfl
  | loading => rfl
  | error message => rfl
  | review sheet => rfl

theorem name_eq_of_spread_eq (h : p.toJson.spread = q.toJson.spread) : p.name = q.name := by
  have hinitial : p.name.toList[0]? = q.name.toList[0]? := by
    rw [← spread_initial, ← spread_initial, h]
  cases p <;> cases q <;> first | rfl | exact absurd hinitial (by simp [name])

theorem name_eq_of_toText_eq (h : p.toText = q.toText) : p.name = q.name := by
  have hinitial : p.toText.toList[0]? = q.toText.toList[0]? := by rw [h]
  rw [toText_initial, toText_initial] at hinitial
  cases p <;> cases q <;> first | rfl | exact absurd hinitial (by simp)

/-- This panel, and nothing else, stands in an output of this format: its document, spread out
and on lines of its own, or its text. -/
structure Shown (format : Format) (p : Panel) (output : String) : Prop where
  json : format = .json → output = p.toJson.spread ++ "\n"
  text : format = .text → output = p.toText

/-- An output shows one kind of panel only. -/
theorem Shown.name_eq {format : Format} {output : String} (h : Shown format p output)
    (h' : Shown format q output) : p.name = q.name := by
  cases format with
  | json =>
      have heq := (h.json rfl).symm.trans (h'.json rfl)
      exact name_eq_of_spread_eq ((String.append_left_inj "\n").mp heq)
  | text => exact name_eq_of_toText_eq ((h.text rfl).symm.trans (h'.text rfl))

end ReviewDesk.Display.Panel
