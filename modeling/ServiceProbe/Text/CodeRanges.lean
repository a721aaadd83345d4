/-!
# Sets of character codes

A class of characters is given by the codes of its members, as a list of inclusive ranges in
ascending order.
-/

namespace ServiceProbe

/-- Character codes, as inclusive ranges. -/
abbrev CodeRanges := List (Nat × Nat)

/-- Whether one of the ranges holds a code. -/
def CodeRanges.covers (ranges : CodeRanges) (code : Nat) : Bool :=
  ranges.any fun range => range.1 ≤ code && code ≤ range.2

end ServiceProbe
