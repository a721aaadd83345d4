import ServiceProbe.Text.CodeRanges

/-!
# Blanks

Which characters of any script are white space: those with the property White_Space.
-/

namespace ServiceProbe.Blank

/-- The codes with the property White_Space. -/
def blanks : CodeRanges := [
  (0x9, 0xD), (0x20, 0x20), (0x85, 0x85), (0xA0, 0xA0), (0x1680, 0x1680), (0x2000, 0x200A),
  (0x2028, 0x2029), (0x202F, 0x202F), (0x205F, 0x205F), (0x3000, 0x3000)]

/-- Whether a character is white space. -/
def isBlank (c : Char) : Bool := blanks.covers c.toNat

end ServiceProbe.Blank
