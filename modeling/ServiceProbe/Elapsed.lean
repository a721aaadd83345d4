import ServiceProbe.Numeric.Binary64

/-!
# Elapsed time

How a measured duration becomes the number of seconds that is reported for a service that is
up: rounded half away from zero to whole microseconds, and never below a tenth of a
millisecond, so that it cannot be taken for the zero of a service that is down. Every
intermediate result is a binary64 number.
-/

namespace ServiceProbe

/-- A measured duration. -/
structure Duration where
  /-- Whole seconds. -/
  seconds : Nat
  /-- Nanoseconds beyond them, fewer than 10^9. -/
  nanos : Nat
  deriving DecidableEq

namespace Elapsed

open Binary64 (nearest unitsPerOne)

/-- How many decimals of a second are reported. -/
def places : Nat := 6

/-- The units of a duration in seconds: the seconds and the fraction become binary64 numbers on
their own, and so does their sum. -/
def secondsOf (d : Duration) : Nat :=
  nearest (nearest d.seconds 1 + nearest d.nanos (Nat.pow 10 9)) unitsPerOne

/-- The whole microseconds in so many units of a second. -/
def microsOf (seconds : Nat) : Nat :=
  Rounding.nearest .away (nearest (seconds * Nat.pow 10 places) unitsPerOne) unitsPerOne

/-- The units of the least number reported, a tenth of a millisecond. -/
def leastUnits : Nat := nearest 1 (Nat.pow 10 4)

/-- The least number reported for a service that is up. -/
def least : Binary64 := .ofUnits leastUnits

/-- The units of the number of seconds reported for a duration. -/
def units (d : Duration) : Nat :=
  max (nearest (microsOf (secondsOf d)) (Nat.pow 10 places)) leastUnits

/-- The number of seconds reported for a duration. -/
def reported (d : Duration) : Binary64 := .ofUnits (units d)

end Elapsed

end ServiceProbe
