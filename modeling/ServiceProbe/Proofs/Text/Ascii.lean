import Mathlib.Data.List.Basic
import ServiceProbe.Text.Utf8

/-!
# ASCII text

The bytes of a text are those of its parts, one behind the other. A text of ASCII characters has one
byte for each of them, its code. So such texts are the same if their bytes are, and what can be said
of the codes of their characters holds of their bytes.
-/

namespace ServiceProbe.Utf8

/-- The bytes of a text are those of its parts. -/
theorem encode_append (front back : String) :
    encode (front ++ back) = encode front ++ encode back := by
  rw [encode, String.toList_append, List.flatMap_append]
  rfl

/-- The bytes of a text are those that the library encodes it by. -/
theorem encode_eq_toUTF8 (text : String) : encode text = text.toUTF8.data.toList := by
  rw [String.toUTF8_eq_toByteArray]
  conv_rhs => rw [← String.ofList_toList (s := text), String.toByteArray_ofList]
  exact List.toList_data_toByteArray.symm

section Ascii

variable {text : String} (ascii : ∀ c ∈ text.toList, c.toNat < 128)

include ascii

/-- An ASCII text has one byte for each character. -/
theorem encode_of_ascii : encode text = text.toList.map fun c => UInt8.ofNat c.toNat := by
  rw [encode, List.map_eq_flatMap]
  apply List.flatMap_congr
  intro c hc
  have small : c.val.toNat ≤ 127 := Nat.le_of_lt_succ (ascii c hc)
  simp only [String.utf8EncodeChar, small, if_true]
  rfl

/-- The byte of a character is its code. -/
theorem map_toNat_encode : (encode text).map UInt8.toNat = text.toList.map Char.toNat := by
  rw [encode_of_ascii ascii, List.map_map]
  apply List.map_congr_left
  intro c hc
  exact UInt8.toNat_ofNat_of_lt' (Nat.lt_trans (ascii c hc) (by decide))

/-- Every byte of an ASCII text is that of a character. -/
theorem exists_of_mem_encode {byte : UInt8} (hm : byte ∈ encode text) :
    ∃ c ∈ text.toList, byte.toNat = c.toNat := by
  have code : byte.toNat ∈ (encode text).map UInt8.toNat := List.mem_map_of_mem hm
  rw [map_toNat_encode ascii] at code
  obtain ⟨c, hc, same⟩ := List.mem_map.mp code
  exact ⟨c, hc, same.symm⟩

/-- ASCII texts with the same bytes are the same. -/
theorem eq_of_encode_eq {other : String} (otherAscii : ∀ c ∈ other.toList, c.toNat < 128)
    (same : encode text = encode other) : text = other := by
  have codes : text.toList.map Char.toNat = other.toList.map Char.toNat := by
    rw [← map_toNat_encode ascii, ← map_toNat_encode otherAscii, same]
  have injective : Function.Injective Char.toNat := fun _ _ => Char.toNat_inj.mp
  exact String.toList_inj.mp (List.map_injective_iff.mpr injective codes)

end Ascii

end ServiceProbe.Utf8
