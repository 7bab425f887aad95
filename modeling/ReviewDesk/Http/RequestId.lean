/-
Names for requests.

A request has a name of its own, so that both sides can speak of it: a random UUID,
version 4.
-/
import ReviewDesk.Text.Quoted
import ReviewDesk.Text.Utf8

namespace ReviewDesk.Http.RequestId

/-- Marks sixteen random bytes as a random UUID. -/
def marked : Bytes → Bytes
  | [a, b, c, d, e, f, g, h, i, j, k, l, m, n, o, p] =>
    [a, b, c, d, e, f, g &&& 0x0F ||| 0x40, h, i &&& 0x3F ||| 0x80, j, k, l, m, n, o, p]
  | bs => bs

/-- The two digits of a byte. -/
def hexByte (b : UInt8) : List Char :=
  Text.hex (b.toNat / 16) ++ Text.hex (b.toNat % 16)

/-- The UUID made of sixteen random bytes. -/
def ofRandom (bs : Bytes) : String :=
  let digits := (marked bs).flatMap hexByte
  let part (start length : Nat) := (digits.drop start).take length
  String.ofList (List.intercalate ['-'] [part 0 8, part 8 4, part 12 4, part 16 4, part 20 12])

end ReviewDesk.Http.RequestId
