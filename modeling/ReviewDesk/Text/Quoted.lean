/-
Quoting a text inside a message.

The quoted form shows on one line exactly which characters were given: the usual
short escapes, and the code point of everything that a terminal would not show as a
character standing on its own.
-/
import ReviewDesk.Text.Invisible
import ReviewDesk.Text.Extending

namespace ReviewDesk.Text

/-- Lower-case hexadecimal, no padding. -/
def hex (n : Nat) : List Char :=
  Nat.toDigits 16 n

/-- A character inside the quotation marks. -/
def quotedChar (c : Char) : List Char :=
  if c = '"' then ['\\', '"']
  else if c = '\\' then ['\\', '\\']
  else if c = '\n' then ['\\', 'n']
  else if c = '\r' then ['\\', 'r']
  else if c = '\t' then ['\\', 't']
  else if c = '\x00' then ['\\', '0']
  else if extending.contains c || invisible.contains c then
    ['\\', 'u', '\x7b'] ++ hex c.toNat ++ ['\x7d']
  else [c]

/-- The text between quotation marks. -/
def quoted (s : String) : String :=
  String.ofList ('"' :: s.toList.flatMap quotedChar ++ ['"'])

end ReviewDesk.Text
