/-
Domain names.

A domain name is brought into ASCII label by label: characters are replaced by their
simpler equals, the rest is composed, and a label that still is not ASCII is encoded.
A label that was encoded already stays, if it stands for a label that could be encoded.

An ASCII name thereby keeps its spelling but for capital letters.  Very long labels are
neither encoded nor decoded, and the two bounds are not one: an encoding can be too long to
be decoded although what it stands for was not too long to be encoded.
-/
import ReviewDesk.Url.Domain.Mapping
import ReviewDesk.Url.Domain.Direction
import ReviewDesk.Url.Domain.Punycode
import ReviewDesk.Text.Split

namespace ReviewDesk.Url.Domain

/-- Whether all characters have one byte. -/
def isAscii (cs : List Char) : Bool :=
  cs.all (·.toNat < 0x80)

/-- The characters that a host must not have, whichever way they were written. -/
def isForbidden (c : Char) : Bool :=
  c.toNat ≤ 0x20 || c.toNat == 0x7F || "#/:<>?@[\\]^|%".toList.contains c

/-- What an encoded label starts with. -/
def marker : List Char := ['x', 'n', '-', '-']

/-- A label with more characters than this is not encoded. -/
def maxEncoded : Nat := 1000

/-- An encoding with more characters than this is not decoded. -/
def maxDecoded : Nat := 2000

/-- A label as it is sent, and as it reads. -/
structure Label where
  ascii : List Char
  unicode : List Char

/-- Whether a label outside ASCII is written in the one way it may be. -/
def isProper (label : List Char) : Bool :=
  label.all isValid
    && compose label = label
    && !(label.head?.map isMark).getD false
    && keepsJoiners [] label

/-- The label that an encoding stands for, if it stands for one outside ASCII. -/
def encoded? (label : List Char) : Option Label := do
  let digits := label.drop marker.length
  if maxDecoded < digits.length then none
  else
    let decoded ← Punycode.decode? digits
    if isAscii label && !isAscii decoded && isProper decoded then some ⟨label, decoded⟩
    else none

/-- A label in ASCII: it is encoded already, it is in ASCII anyhow, or it is encoded now. -/
def label? (label : List Char) : Option Label :=
  if marker.isPrefixOf label then encoded? label
  else if isAscii label then some ⟨label, label⟩
  else if label.length ≤ maxEncoded && isProper label then
    some ⟨marker ++ Punycode.encode label, label⟩
  else none

/-- The rule on directions, for a name that has letters from right to left. -/
def keepsDirections (labels : List Label) : Bool :=
  !labels.any (fun l => l.unicode.any isRightToLeft)
    || labels.all fun l => keepsDirection (l.unicode.map Direction.of)

/-- The labels of a name without capital letters or other replaceable characters. -/
def ofLabels? (name : List Char) : Option (List Char) := do
  let labels ← (Text.split '.' name).mapM label?
  let ascii := List.intercalate ['.'] (labels.map Label.ascii)
  if keepsDirections labels && !ascii.any isForbidden then some ascii else none

/-- A domain name in ASCII. -/
def ofChars? (cs : List Char) : Option (List Char) := do
  let mapped ← cs.mapM mapChar?
  ofLabels? (compose mapped.flatten)

end ReviewDesk.Url.Domain
