/-
Text as bytes.

What is sent, received and read from files is bytes; what a person edits is text.
UTF-8 ties the two, and `ofBytes?_bytes` is the half of that tie everything written
here relies on: bytes made from a text read back as that text.
-/

namespace ReviewDesk

/-- A byte string, in order. -/
abbrev Bytes := List UInt8

namespace Text

/-- The UTF-8 of a text. -/
def bytes (s : String) : Bytes :=
  s.toUTF8.data.toList

/-- The text of which these bytes are the UTF-8, if they are. -/
def ofBytes? (bs : Bytes) : Option String :=
  String.fromUTF8? ⟨bs.toArray⟩

theorem ofBytes?_bytes (s : String) : ofBytes? (bytes s) = some s := by
  have h : (⟨(bytes s).toArray⟩ : ByteArray) = s.toUTF8 := by simp [bytes]
  rw [ofBytes?, h, String.fromUTF8?]
  exact dif_pos s.isValidUTF8

end Text

end ReviewDesk
