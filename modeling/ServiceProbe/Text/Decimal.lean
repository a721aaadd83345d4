/-!
# Decimal numerals

A numeral is a run of character codes. Reading gives the number that a run of ASCII digits
spells, leading zeros included; writing gives the shortest run. A bounded reading refuses a
number that does not fit and never reduces it.
-/

namespace ServiceProbe.Decimal

/-- Whether a character code is one of the ten ASCII digits. -/
def isDigit (code : Nat) : Bool := 48 ≤ code && code ≤ 57

/-- The number that a run of digits spells, the most significant digit first. -/
def value (run : List Nat) : Nat := run.foldl (fun total code => 10 * total + (code - 48)) 0

/-- Whether a run is a numeral: at least one code, and digits only. -/
def isNumeral (run : List Nat) : Bool := !run.isEmpty && run.all isDigit

/-- The number a numeral spells, if it is below `bound`. -/
def below? (bound : Nat) (run : List Nat) : Option (Fin bound) :=
  if isNumeral run then
    if fits : value run < bound then some ⟨value run, fits⟩ else none
  else none

/-- The digits of a number as characters, without leading zeros; zero is one digit. -/
def digits (n : Nat) : List Char := Nat.toDigits 10 n

/-- The digits of a number, filled up with leading zeros to at least `width` of them. -/
def padded (width n : Nat) : List Char :=
  List.replicate (width - (digits n).length) '0' ++ digits n

end ServiceProbe.Decimal
