import ServiceProbe.Numeric.Rounding
import ServiceProbe.Text.Decimal

/-!
# Binary64 numbers

The 64-bit binary floating-point format. A finite number is a sign and a natural number of
units of 2^-1074, the spacing of the smallest ones, so that sums, quotients and decimal texts
are computed exactly before they are rounded. Rounding to the format keeps 53 significant bits
and resolves ties to even.
-/

namespace ServiceProbe

/-- A datum of the format. The units of a finite number have at most 53 significant bits. -/
inductive Binary64 where
  /-- A finite number; zero keeps its sign. -/
  | finite (negative : Bool) (units : Nat)
  /-- An infinity. -/
  | infinite (negative : Bool)
  /-- Not a number, whatever its payload. -/
  | nan
  deriving DecidableEq

namespace Binary64

/-- How many units make one. -/
def unitsPerOne : Nat := Nat.pow 2 1074

/-- The exponent of the spacing, in units, of the numbers of the format around `units`: 53
significant bits, and never less than one unit. -/
def spacing (units : Nat) : Nat := units.log2 - 52

/-- The units of the number of the format nearest to `num / den` ones. -/
def nearest (num den : Nat) : Nat :=
  let exponent := spacing (num * unitsPerOne / den)
  Rounding.nearest .toEven (num * unitsPerOne) (den * Nat.pow 2 exponent) * Nat.pow 2 exponent

/-- The nonnegative number of so many units. -/
def ofUnits (units : Nat) : Binary64 := .finite false units

/-- The datum that a 64-bit word stands for: a sign, eleven bits of exponent and 52 of
fraction. -/
def ofBits (word : Nat) : Binary64 :=
  let negative := word / Nat.pow 2 63 % 2 = 1
  let exponent := word / Nat.pow 2 52 % Nat.pow 2 11
  let fraction := word % Nat.pow 2 52
  if exponent = Nat.pow 2 11 - 1 then
    if fraction = 0 then .infinite negative else .nan
  else if exponent = 0 then .finite negative fraction
  else .finite negative ((Nat.pow 2 52 + fraction) * Nat.pow 2 (exponent - 1))

/-- The word of a nonnegative finite number. A number below 2^52 units is its own word; above,
each doubling of the spacing adds one to the exponent field. -/
def wordOfUnits (units : Nat) : Nat :=
  spacing units * Nat.pow 2 52 + units / Nat.pow 2 (spacing units)

/-- The word of a datum; the quiet one for not-a-number. -/
def toBits : Binary64 → Nat
  | .finite negative units => (if negative then Nat.pow 2 63 else 0) + wordOfUnits units
  | .infinite negative =>
    (if negative then Nat.pow 2 63 else 0) + (Nat.pow 2 11 - 1) * Nat.pow 2 52
  | .nan => (Nat.pow 2 12 - 1) * Nat.pow 2 51

/-- The decimal text of `count` steps of `10 ^ -places`: the integer part without padding, a
point and exactly `places` digits. -/
def decimalText (places count : Nat) : List Char :=
  Decimal.digits (count / Nat.pow 10 places) ++
    '.' :: Decimal.padded places (count % Nat.pow 10 places)

/-- The decimal text with a fixed number of places, from the exact value, ties to even. The sign
is kept also where only zeros remain. -/
def fixed (places : Nat) : Binary64 → String
  | .finite negative units =>
    let count := Rounding.nearest .toEven (units * Nat.pow 10 places) unitsPerOne
    String.ofList ((if negative then ['-'] else []) ++ decimalText places count)
  | .infinite negative => if negative then "-inf" else "inf"
  | .nan => "NaN"

end Binary64

end ServiceProbe
