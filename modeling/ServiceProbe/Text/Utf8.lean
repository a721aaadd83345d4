/-!
# UTF-8

Encoding of text as bytes, and the forgiving decoding in which every maximal piece that no
well-formed sequence continues is replaced by U+FFFD. The decoder takes one byte at a time;
between bytes it stands on a character boundary or inside a sequence, where the bounds on the
next byte exclude overlong forms, surrogates and codes past U+10FFFF.
-/

namespace ServiceProbe.Utf8

/-- The bytes of a text. -/
def encode (text : String) : List UInt8 := text.toList.flatMap String.utf8EncodeChar

/-- How many bytes a run of characters takes. -/
def width : List Char → Nat
  | [] => 0
  | c :: rest => c.utf8Size + width rest

/-- The widths of two runs add up. -/
theorem width_append (front back : List Char) : width (front ++ back) = width front + width back := by
  induction front with
  | nil => rw [List.nil_append, width, Nat.zero_add]
  | cons c front ih => rw [List.cons_append, width, ih, width, Nat.add_assoc]

/-- The characters of a text take as many bytes as the text. -/
theorem width_eq_utf8ByteSize (characters : List Char) :
    width characters = (String.ofList characters).utf8ByteSize := by
  induction characters with
  | nil => rfl
  | cons c rest ih =>
    rw [← List.singleton_append, String.ofList_append, String.utf8ByteSize_append,
      ← String.singleton_eq_ofList, String.utf8ByteSize_singleton, ← ih]
    rfl

/-- The character that stands for bytes which are no UTF-8. -/
def replacement : Char := '\uFFFD'

/-- Where the decoder stands between two bytes. -/
inductive Position where
  /-- Between characters. -/
  | boundary
  /-- Inside a sequence: the bits read so far, the bounds on the next byte and how many bytes
  are owed after that one. -/
  | inside (bits : Nat) (low high : UInt8) (owed : Nat)
  deriving DecidableEq

/-- The first byte of a sequence: an ASCII character, the start of a longer sequence, or a byte
that starts none. -/
def first (byte : UInt8) : Position × List Char :=
  let code := byte.toNat
  if code ≤ 0x7F then (.boundary, [Char.ofNat code])
  else if 0xC2 ≤ code ∧ code ≤ 0xDF then (.inside (code - 0xC0) 0x80 0xBF 0, [])
  else if code = 0xE0 then (.inside 0 0xA0 0xBF 1, [])
  else if code = 0xED then (.inside 0xD 0x80 0x9F 1, [])
  else if 0xE1 ≤ code ∧ code ≤ 0xEF then (.inside (code - 0xE0) 0x80 0xBF 1, [])
  else if code = 0xF0 then (.inside 0 0x90 0xBF 2, [])
  else if 0xF1 ≤ code ∧ code ≤ 0xF3 then (.inside (code - 0xF0) 0x80 0xBF 2, [])
  else if code = 0xF4 then (.inside 4 0x80 0x8F 2, [])
  else (.boundary, [replacement])

/-- One byte: where the decoder stands after it and the characters that it completes. A byte
outside the bounds closes the open sequence as a replacement and is read as a first byte. -/
def step : Position → UInt8 → Position × List Char
  | .boundary, byte => first byte
  | .inside bits low high owed, byte =>
    if low ≤ byte ∧ byte ≤ high then
      let bits := bits * 64 + (byte.toNat - 0x80)
      match owed with
      | 0 => (.boundary, [Char.ofNat bits])
      | owed + 1 => (.inside bits 0x80 0xBF owed, [])
    else
      let (position, characters) := first byte
      (position, replacement :: characters)

/-- The characters from a position on; a sequence cut off by the end is a replacement. -/
def decodeFrom : Position → List UInt8 → List Char
  | .boundary, [] => []
  | .inside .., [] => [replacement]
  | position, byte :: rest =>
    let (next, characters) := step position byte
    characters ++ decodeFrom next rest

/-- The text of some bytes, with replacements where they are no UTF-8. -/
def decodeLossy (bytes : List UInt8) : String := String.ofList (decodeFrom .boundary bytes)

end ServiceProbe.Utf8
