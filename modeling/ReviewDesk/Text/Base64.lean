/-
Bytes in base 64.

Three bytes are four digits of six bits.  What is missing of the last three bytes is
zero bits, and digits made of those alone are written as equals signs.
-/
import ReviewDesk.Text.Utf8

namespace ReviewDesk.Text

/-- The digit for a number below 64. -/
def base64Digit (n : Nat) : Char :=
  if n < 26 then Char.ofNat (0x41 + n)
  else if n < 52 then Char.ofNat (0x61 + (n - 26))
  else if n < 62 then Char.ofNat (0x30 + (n - 52))
  else if n = 62 then '+'
  else '/'

/-- The four digits of three bytes. -/
def base64Group (a b c : UInt8) : List Char :=
  let n := a.toNat * 65536 + b.toNat * 256 + c.toNat
  [n / 262144, n / 4096 % 64, n / 64 % 64, n % 64].map base64Digit

/-- Bytes in digits, four for every three. -/
def base64 : Bytes → List Char
  | [] => []
  | [a] => (base64Group a 0 0).take 2 ++ ['=', '=']
  | [a, b] => (base64Group a b 0).take 3 ++ ['=']
  | a :: b :: c :: rest => base64Group a b c ++ base64 rest

end ReviewDesk.Text
