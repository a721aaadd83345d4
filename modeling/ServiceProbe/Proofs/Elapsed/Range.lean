import ServiceProbe.Elapsed
import ServiceProbe.Proofs.Numeric.Binary64
import ServiceProbe.Proofs.Numeric.FixedPlaces

/-!
# The range of reported seconds

The seconds reported for a duration that a clock can measure. Each rounding on the way stays far
inside the range of the format, so what is reported is always a finite number, and as it is never
below a tenth of a millisecond its text never shows zero.
-/

namespace ServiceProbe

/-- A duration that a clock can measure: its seconds have 64 bits and its nanoseconds are fewer
than a second. -/
structure Duration.InRange (d : Duration) : Prop where
  /-- The seconds fit their word. -/
  seconds_lt : d.seconds < 2 ^ 64
  /-- The nanoseconds are a fraction. -/
  nanos_lt : d.nanos < 10 ^ 9

namespace Elapsed

open Binary64 (nearest unitsPerOne unitsPerOne_pos nearest_le_two_pow Representable)

/-- A measurable duration has no more than `2 ^ 65` seconds, rounded. -/
theorem secondsOf_le {d : Duration} (h : d.InRange) : secondsOf d ≤ 2 ^ 65 * unitsPerOne := by
  have seconds : nearest d.seconds 1 ≤ 2 ^ 64 * unitsPerOne := by
    apply nearest_le_two_pow (by decide)
    have := h.seconds_lt
    omega
  have fraction : nearest d.nanos (Nat.pow 10 9) ≤ 2 ^ 0 * unitsPerOne := by
    apply nearest_le_two_pow (by decide)
    have := h.nanos_lt
    rw [Nat.pow_eq]
    omega
  apply nearest_le_two_pow unitsPerOne_pos
  omega

/-- It has no more than `2 ^ 85` microseconds, rounded. -/
theorem microsOf_secondsOf_le {d : Duration} (h : d.InRange) :
    microsOf (secondsOf d) ≤ 2 ^ 85 := by
  have seconds := secondsOf_le h
  apply Rounding.nearest_le unitsPerOne_pos
  apply nearest_le_two_pow unitsPerOne_pos
  calc secondsOf d * Nat.pow 10 places ≤ 2 ^ 65 * unitsPerOne * Nat.pow 10 places :=
        Nat.mul_le_mul_right _ seconds
    _ ≤ 2 ^ 65 * unitsPerOne * 2 ^ 20 := Nat.mul_le_mul_left _ (by decide)
    _ = 2 ^ 85 * unitsPerOne := by ring

/-- The least number reported is a number of the format. -/
theorem representable_leastUnits : Representable leastUnits := by
  have one : 1 ≤ 2 ^ 0 * Nat.pow 10 4 := by decide
  unfold leastUnits
  exact Binary64.representable_nearest (by decide) one (by decide)

/-- A second has a least decimal step. -/
theorem pow_places_pos : 0 < Nat.pow 10 places := by decide

/-- What is reported for a measurable duration is a finite number of the format. -/
theorem representable_units {d : Duration} (h : d.InRange) : Representable (units d) := by
  have micros := microsOf_secondsOf_le h
  have scaled := Nat.le_mul_of_pos_right (2 ^ 85) pow_places_pos
  have rounded :=
    Binary64.representable_nearest pow_places_pos (micros.trans scaled) (by decide)
  exact rounded.max representable_leastUnits

/-- Nothing below the least number is reported. -/
theorem leastUnits_le (d : Duration) : leastUnits ≤ units d := Nat.le_max_right _ _

/-- The least number is the tenth of a millisecond or above it. -/
theorem one_le_leastUnits : unitsPerOne ≤ leastUnits * Nat.pow 10 4 := by decide +kernel

/-- What it means that so many units are a number of seconds that no one takes for the zero of a
service that is down. -/
structure Reportable (units : Nat) : Prop where
  /-- They are a finite number of the format, with a word of its own. -/
  finite : ∃ word < 2 ^ 63, Binary64.ofBits word = .ofUnits units
  /-- The number is not below the one that stands for a tenth of a millisecond, -/
  least : leastUnits ≤ units
  /-- nor below the tenth of a millisecond itself. -/
  tenth_milli : unitsPerOne ≤ units * 10 ^ 4
  /-- Its text has six decimals and shows a tenth of a millisecond or more. -/
  shows : ∃ micros ≥ 100, Binary64.Shows 6 micros ((Binary64.ofUnits units).fixed places)

/-- A finite number of the format that is not below the least one is reportable. -/
theorem reportable_of_leastUnits_le {units : Nat} (word : Representable units)
    (least : leastUnits ≤ units) : Reportable units := by
  have tenth : unitsPerOne ≤ units * 10 ^ 4 :=
    one_le_leastUnits.trans (Nat.mul_le_mul_right _ least)
  refine ⟨⟨_, (Binary64.ofBits_wordOfUnits word).symm⟩, least, tenth, _, ?_,
    Binary64.shows_fixed (by decide) units⟩
  apply Rounding.le_nearest unitsPerOne_pos
  calc 100 * unitsPerOne ≤ 100 * (units * 10 ^ 4) := Nat.mul_le_mul_left _ tenth
    _ = units * Nat.pow 10 places := by rw [places, Nat.pow_eq]; ring

/-- What is reported for a measurable duration is reportable. -/
theorem reportable_units {d : Duration} (h : d.InRange) : Reportable (units d) :=
  reportable_of_leastUnits_le (representable_units h) (leastUnits_le d)

end Elapsed

end ServiceProbe
