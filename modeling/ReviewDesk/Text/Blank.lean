/-
Blank text.

A character is blank when it has the Unicode property White_Space.  Characters that
merely look empty do not have it: the zero width space, the byte order mark and the
Mongolian vowel separator are all visible to a reviewer as text.
-/

namespace ReviewDesk.Text

/-- The characters with the property White_Space. -/
def isBlankChar (c : Char) : Bool :=
  let n := c.toNat
  (0x09 ≤ n && n ≤ 0x0D) || n == 0x20 || n == 0x85 || n == 0xA0 || n == 0x1680
    || (0x2000 ≤ n && n ≤ 0x200A) || n == 0x2028 || n == 0x2029 || n == 0x202F
    || n == 0x205F || n == 0x3000

/-- Whether trimming would leave nothing. -/
def isBlank (s : String) : Bool :=
  s.toList.all isBlankChar

theorem isBlank_empty : isBlank "" = true := by decide

end ReviewDesk.Text
