/-
The UTF-8 of a row of characters.

Writers work on characters and readers on bytes.  `encode` takes the one to the other
character by character, and what matters to a reader is where an ASCII byte can come
from: an ASCII character is its own byte, and every byte of another character is 0x80
or more.  So no byte that the format gives a meaning to hides in a character.
-/
import ReviewDesk.Text.Utf8
import ReviewDesk.Json.Token

namespace ReviewDesk

namespace Json

theorem toNat_ascii {c : Char} (h : c.toNat < 0x80) : (ascii c).toNat = c.toNat := by
  show c.toNat % 256 = c.toNat
  omega

theorem ascii_inj {c d : Char} (hc : c.toNat < 0x80) (hd : d.toNat < 0x80)
    (h : ascii c = ascii d) : c = d := by
  have hnat := congrArg UInt8.toNat h
  rw [toNat_ascii hc, toNat_ascii hd] at hnat
  exact Char.toNat_inj.mp hnat

end Json

namespace Text

/-- The UTF-8 of characters, one after the other. -/
def encode (cs : List Char) : Bytes :=
  cs.flatMap String.utf8EncodeChar

theorem encode_cons (c : Char) (cs : List Char) :
    encode (c :: cs) = String.utf8EncodeChar c ++ encode cs := by
  simp [encode]

@[simp] theorem encode_append (cs ds : List Char) :
    encode (cs ++ ds) = encode cs ++ encode ds := by
  simp [encode]

theorem bytes_ofList (cs : List Char) : bytes (String.ofList cs) = encode cs := by
  simp [bytes, encode, String.toUTF8, List.utf8Encode]

theorem bytes_eq_encode (s : String) : bytes s = encode s.toList := by
  rw [← bytes_ofList, String.ofList_toList]

theorem encode_inj {cs ds : List Char} (h : encode cs = encode ds) : cs = ds := by
  rw [← bytes_ofList, ← bytes_ofList] at h
  have htexts := congrArg ofBytes? h
  rw [ofBytes?_bytes, ofBytes?_bytes, Option.some.injEq] at htexts
  exact String.ofList_injective htexts

/-! ### Where an ASCII byte comes from -/

theorem utf8_ascii {c : Char} (h : c.toNat < 0x80) :
    String.utf8EncodeChar c = [Json.ascii c] := by
  have hv : c.val.toNat ≤ 127 := Nat.le_of_lt_succ h
  simp only [String.utf8EncodeChar, if_pos hv]
  rfl

theorem encode_ascii_cons {c : Char} (cs : List Char) (h : c.toNat < 0x80) :
    encode (c :: cs) = Json.ascii c :: encode cs := by
  rw [encode_cons, utf8_ascii h, List.singleton_append]

theorem encode_of_ascii {cs : List Char} (h : ∀ c ∈ cs, c.toNat < 0x80) :
    encode cs = cs.map Json.ascii := by
  induction cs with
  | nil => rfl
  | cons c cs ih =>
      rw [encode_ascii_cons cs (h c (List.mem_cons_self ..)), List.map_cons,
        ih fun d hd => h d (List.mem_cons_of_mem _ hd)]

theorem high_ofNat {n : Nat} (h : 0x80 ≤ n) (hn : n < 0x100) : 0x80 ≤ (UInt8.ofNat n).toNat := by
  rw [UInt8.toNat_ofNat', Nat.mod_eq_of_lt hn]
  exact h

/-- The bytes of a character that is not ASCII are not ASCII either. -/
theorem high_of_mem_utf8 {c : Char} {b : UInt8} (h : 0x80 ≤ c.toNat)
    (hb : b ∈ String.utf8EncodeChar c) : 0x80 ≤ b.toNat := by
  have hv : ¬ c.val.toNat ≤ 127 := Nat.not_le_of_lt h
  simp only [String.utf8EncodeChar, if_neg hv] at hb
  repeat' split at hb
  all_goals simp only [List.mem_cons, List.not_mem_nil, or_false] at hb
  · rcases hb with rfl | rfl <;> exact high_ofNat (by omega) (by omega)
  · rcases hb with rfl | rfl | rfl <;> exact high_ofNat (by omega) (by omega)
  · rcases hb with rfl | rfl | rfl | rfl <;> exact high_ofNat (by omega) (by omega)

end Text

end ReviewDesk
