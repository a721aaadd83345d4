import ServiceProbe.Proofs.Elapsed.Rounding

/-!
# The order of reported seconds

A longer duration is never reported as less, over all durations that a clock can measure. Within a
second this is the order of the fractions. Across seconds it depends on how large they are: below
`2 ^ 53` they are exact, and a fraction leads to the next one at most; from there on they are
rounded themselves, two of them may become one, and no fraction is large enough to count.
-/

namespace ServiceProbe

namespace Duration

/-- Of two durations the longer one has more seconds, or as many and no fewer nanoseconds. -/
theorem lt_or_eq_of_total_le {first second : Duration} (fraction : second.nanos < 10 ^ 9)
    (order : first.total ≤ second.total) :
    first.seconds < second.seconds ∨
      first.seconds = second.seconds ∧ first.nanos ≤ second.nanos := by
  unfold total at order
  omega

end Duration

namespace Binary64

/-- A number of units with its sign. -/
def signed (negative : Bool) (units : Nat) : Int := if negative then -units else units

/-- The order of the format: the two zeros are equal, and nothing compares with what is not a
number. -/
inductive AtMost : Binary64 → Binary64 → Prop
  /-- Finite numbers are ordered as their units are. -/
  | finite {negative negative' : Bool} {units units' : Nat}
    (order : signed negative units ≤ signed negative' units') :
    AtMost (.finite negative units) (.finite negative' units')
  /-- The negative infinity is at most any number. -/
  | bottom {datum : Binary64} (number : datum ≠ .nan) : AtMost (.infinite true) datum
  /-- Any number is at most the positive infinity. -/
  | top {datum : Binary64} (number : datum ≠ .nan) : AtMost datum (.infinite false)

/-- Numbers that are not negative are ordered as their units are. -/
theorem atMost_ofUnits_iff {first second : Nat} :
    (ofUnits first).AtMost (ofUnits second) ↔ first ≤ second := by
  constructor
  · rintro ⟨order⟩
    exact Int.ofNat_le.mp order
  · intro order
    exact .finite (Int.ofNat_le.mpr order)

end Binary64

namespace Elapsed

open Binary64 (nearest nearest_mono unitsPerOne unitsPerOne_pos unitsPerOne_eq unitExponent spacing
  Representable IsNearest)

section Seconds

variable {d : Duration}

/-- The rounded seconds are a number of the format. -/
theorem representable_seconds (h : d.InRange) : Representable (nearest d.seconds 1) := by
  have inside : d.seconds ≤ 2 ^ 64 * 1 := by
    have range := h.seconds_lt
    omega
  exact Binary64.representable_nearest Nat.zero_lt_one inside (by decide)

/-- The fraction takes nothing from the seconds, -/
theorem nearest_seconds_le (h : d.InRange) : nearest d.seconds 1 ≤ secondsOf d :=
  calc nearest d.seconds 1 = nearest (nearest d.seconds 1) unitsPerOne :=
        (Binary64.nearest_unitsPerOne (representable_seconds h)).symm
    _ ≤ secondsOf d :=
      nearest_mono unitsPerOne_pos unitsPerOne_pos
        (Nat.mul_le_mul_right _ (Nat.le_add_right _ _))

/-- and it adds nothing to seconds that are two apart or more. -/
theorem secondsOf_of_large (h : d.InRange) (large : 2 ^ 53 ≤ d.seconds) :
    secondsOf d = nearest d.seconds 1 := by
  have least : 2 ^ (52 + (1 + unitExponent)) ≤ nearest d.seconds 1 :=
    calc 2 ^ (52 + (1 + unitExponent)) = 2 ^ 53 * unitsPerOne := by
          rw [unitsPerOne_eq, ← Nat.add_assoc, pow_add]
      _ = nearest (2 ^ 53) 1 := (Binary64.nearest_one le_rfl).symm
      _ ≤ nearest d.seconds 1 :=
        nearest_mono Nat.zero_lt_one Nat.zero_lt_one (Nat.mul_le_mul_right 1 large)
  have power : 2 ^ (52 + (1 + unitExponent)) < 2 ^ (53 + (1 + unitExponent)) :=
    Nat.pow_lt_pow_right Nat.one_lt_two (Nat.add_lt_add_right (by decide) _)
  have wide : 1 + unitExponent ≤ spacing (nearest d.seconds 1) :=
    calc 1 + unitExponent = spacing (2 ^ (52 + (1 + unitExponent))) :=
          (Binary64.spacing_eq le_rfl power).symm
      _ ≤ spacing (nearest d.seconds 1) := Binary64.spacing_mono least
  apply Binary64.nearest_add (representable_seconds h)
  calc 2 * nearest d.nanos (Nat.pow 10 9) < 2 * unitsPerOne :=
        Nat.mul_lt_mul_of_pos_left (fraction_lt h.nanos_lt) Nat.zero_lt_two
    _ = 2 ^ (1 + unitExponent) := by rw [unitsPerOne_eq, pow_add, pow_one]
    _ ≤ 2 ^ spacing (nearest d.seconds 1) := Nat.pow_le_pow_right Nat.zero_lt_two wide

/-- Seconds with a fraction do not come to more than later seconds without. -/
theorem secondsOf_le_of_lt (h : d.InRange) {later : Nat} (less : d.seconds < later) :
    secondsOf d ≤ nearest later 1 := by
  rcases Nat.lt_or_ge d.seconds (2 ^ 53) with small | large
  · have next : d.seconds * unitsPerOne + nearest d.nanos (Nat.pow 10 9) ≤
        later * unitsPerOne :=
      calc d.seconds * unitsPerOne + nearest d.nanos (Nat.pow 10 9)
          ≤ d.seconds * unitsPerOne + unitsPerOne :=
            Nat.add_le_add_left (fraction_lt h.nanos_lt).le _
        _ = (d.seconds + 1) * unitsPerOne := (Nat.add_one_mul _ _).symm
        _ ≤ later * unitsPerOne := Nat.mul_le_mul_right _ less
    rw [secondsOf_eq small]
    apply nearest_mono unitsPerOne_pos Nat.zero_lt_one
    rwa [Nat.mul_one]
  · rw [secondsOf_of_large h large]
    exact nearest_mono Nat.zero_lt_one Nat.zero_lt_one (Nat.mul_le_mul_right 1 less.le)

end Seconds

variable {first second : Duration}

/-- A longer duration has no fewer seconds, rounded, -/
theorem secondsOf_mono (hf : first.InRange) (hs : second.InRange)
    (order : first.total ≤ second.total) : secondsOf first ≤ secondsOf second := by
  rcases Duration.lt_or_eq_of_total_le hs.nanos_lt order with less | ⟨same, fraction⟩
  · exact (secondsOf_le_of_lt hf less).trans (nearest_seconds_le hs)
  · have positive : 0 < Nat.pow 10 9 := by decide
    have added : nearest first.nanos (Nat.pow 10 9) ≤ nearest second.nanos (Nat.pow 10 9) :=
      nearest_mono positive positive (Nat.mul_le_mul_right _ fraction)
    rw [secondsOf, secondsOf, same]
    exact nearest_mono unitsPerOne_pos unitsPerOne_pos
      (Nat.mul_le_mul_right _ (Nat.add_le_add_left added _))

/-- more seconds have no fewer microseconds, -/
theorem microsOf_mono {few many : Nat} (order : few ≤ many) : microsOf few ≤ microsOf many := by
  have product : nearest (few * Nat.pow 10 places) unitsPerOne ≤
      nearest (many * Nat.pow 10 places) unitsPerOne :=
    nearest_mono unitsPerOne_pos unitsPerOne_pos
      (Nat.mul_le_mul_right _ (Nat.mul_le_mul_right _ order))
  exact Rounding.nearest_mono unitsPerOne_pos unitsPerOne_pos (Nat.mul_le_mul_right _ product) .away

/-- and no less is reported for these. -/
theorem units_mono (hf : first.InRange) (hs : second.InRange)
    (order : first.total ≤ second.total) : units first ≤ units second := by
  have micros := microsOf_mono (secondsOf_mono hf hs order)
  have shown := nearest_mono pow_places_pos pow_places_pos (Nat.mul_le_mul_right _ micros)
  exact max_le_max_right leastUnits shown

/-- What it means that a datum is a finite number and not below the least one reported. -/
structure Floored (datum : Binary64) : Prop where
  /-- It is a finite number of the format. -/
  finite : ∃ units, Representable units ∧ datum = .ofUnits units
  /-- The least number is at most this one. -/
  floor : least.AtMost datum

/-- The least number is the one nearest to a tenth of a millisecond, no measurable duration is
reported as less or as anything but a finite number, and a longer one is never reported as less than
a shorter one. -/
theorem reported_mono :
    IsNearest leastUnits 1 (10 ^ 4) ∧
      (∀ d : Duration, d.InRange → Floored (reported d)) ∧
      ∀ first second : Duration, first.InRange → second.InRange → first.total ≤ second.total →
        (reported first).AtMost (reported second) := by
  refine ⟨?_, ?_, ?_⟩
  · exact Binary64.isNearest_nearest (by decide) (by decide : 1 ≤ 2 ^ 0 * 10 ^ 4) (by decide)
  · intro d h
    exact ⟨⟨_, representable_units h, rfl⟩, Binary64.atMost_ofUnits_iff.mpr (leastUnits_le d)⟩
  · intro first second hf hs order
    exact Binary64.atMost_ofUnits_iff.mpr (units_mono hf hs order)

/-- A duration of `2 ^ 53` seconds and almost another one. -/
def fullWait : Duration := ⟨9007199254740992, 999999999⟩

/-- The duration a nanosecond longer. -/
def nextWait : Duration := ⟨9007199254740993, 0⟩

/-- Both are reported alike, since the fraction of one is lost and the seconds of the other are
rounded down. -/
theorem fullWait_reported :
    fullWait.InRange ∧ nextWait.InRange ∧ fullWait.total + 1 = nextWait.total ∧
      Floored (reported fullWait) ∧ (reported fullWait).AtMost (reported nextWait) ∧
      reported fullWait = reported nextWait := by
  have full : fullWait.InRange := ⟨by decide, by decide⟩
  have next : nextWait.InRange := ⟨by decide, by decide⟩
  have later : fullWait.total + 1 = nextWait.total := by decide
  obtain ⟨-, floored, ordered⟩ := reported_mono
  exact ⟨full, next, later, floored fullWait full,
    ordered fullWait nextWait full next (Nat.le_of_lt later.le), by decide +kernel⟩

end Elapsed

end ServiceProbe
