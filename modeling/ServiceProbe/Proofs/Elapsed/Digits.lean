import ServiceProbe.Metric
import ServiceProbe.Proofs.Elapsed.Rounding

/-!
# The digits of reported seconds

A duration of less than `2 ^ 31` seconds is reported as a whole number of microseconds, and the
digits of its text are those of this number. Two of its errors are bounded: what is reported for a
number of microseconds is a quarter of one away from it at most, and so is the product that is
rounded to microseconds again. So neither the six decimals nor a second rounding leads to another
number, and there is none on the way that is a whole microsecond off.
-/

namespace ServiceProbe.Elapsed

open Binary64 (nearest ones unitsPerOne IsNearest Writes)

/-- The units of seconds, rounded to whole microseconds, as it is done with those of a duration before
the least number is put in their place. -/
def rounded (seconds : Nat) : Nat := nearest (microsOf seconds) (Nat.pow 10 places)

section Micros

variable {micros : Nat} (few : micros < 2 ^ 32 * 10 ^ 6)

include few

/-- The number that stands for so many microseconds is less than a quarter of one away from them. -/
theorem abs_million_mul_sub_lt : |ones (nearest micros (10 ^ 6)) * 10 ^ 6 - micros| < 1 / 4 := by
  have off := Binary64.abs_nearest_sub_le million_pos few
  rw [Nat.cast_pow, Nat.cast_ofNat] at off
  obtain ⟨low, high⟩ := abs_le.mp off
  rw [abs_lt]
  constructor <;> linarith

/-- So their decimal text is written for it, -/
theorem writes_fixed_nearest :
    Writes places micros ((Binary64.ofUnits (nearest micros (10 ^ 6))).fixed places) := by
  have near := abs_million_mul_sub_lt few
  rw [← ones_scaled] at near
  have count := Binary64.round_eq_of_abs_lt (near.trans (by norm_num)) .toEven
  rw [Binary64.writes_iff (by decide), Binary64.fixed_ofUnits, count]

/-- they are what it is rounded to, -/
theorem microsOf_nearest : microsOf (nearest micros (10 ^ 6)) = micros := by
  have inside : nearest micros (10 ^ 6) ≤ 2 ^ 32 * unitsPerOne :=
    Binary64.nearest_le_two_pow million_pos few.le
  have quarter : (2 : ℚ) ^ (32 + 20) / 2 ^ 54 = 1 / 4 := by norm_num
  have off := abs_scaled_sub_le inside
  rw [quarter] at off
  obtain ⟨low, high⟩ := abs_le.mp off
  obtain ⟨low', high'⟩ := abs_lt.mp (abs_million_mul_sub_lt few)
  apply Binary64.round_eq_of_abs_lt
  rw [abs_lt]
  constructor <;> linarith

/-- and rounding leaves it as it is. -/
theorem rounded_nearest : rounded (nearest micros (10 ^ 6)) = nearest micros (10 ^ 6) := by
  rw [rounded, microsOf_nearest few, places, Nat.pow_eq]

end Micros

variable {d : Duration} {bits : Nat}

/-- The microseconds that are computed are half of one away from the duration at most, and the
error of the product more. -/
theorem abs_microsOf_secondsOf_sub_lt (wide : 5 ≤ bits) (exact : bits ≤ 53)
    (short : d.seconds < 2 ^ bits) (fraction : d.nanos < 10 ^ 9) :
    |(microsOf (secondsOf d) : ℚ) - d.total / 1000| < 1 / 2 + 2 ^ bits / 2 ^ 33 :=
  calc |(microsOf (secondsOf d) : ℚ) - d.total / 1000|
      = |((microsOf (secondsOf d) : ℚ) - ones (product d)) +
          (ones (product d) - d.total / 1000)| := by rw [sub_add_sub_cancel]
    _ ≤ |(microsOf (secondsOf d) : ℚ) - ones (product d)| +
          |ones (product d) - d.total / 1000| := abs_add_le _ _
    _ < 1 / 2 + 2 ^ bits / 2 ^ 33 :=
      add_lt_add_of_le_of_lt (Binary64.abs_round_sub_le .away (product d))
        (abs_product_sub_lt exact short fraction wide)

/-- What it means that a duration is reported as so many microseconds. -/
structure ReportsMicros (d : Duration) (micros : Nat) : Prop where
  /-- There are a hundred of them or more. -/
  floor : 100 ≤ micros
  /-- Reported is the number that stands for them, in seconds, -/
  reported : reported d = .ofUnits (nearest micros (10 ^ 6))
  /-- and no number of the format is nearer to them. -/
  closest : IsNearest (nearest micros (10 ^ 6)) micros (10 ^ 6)
  /-- The text of the reading is written for them, with six decimals. -/
  text : Writes 6 micros (Reading.seconds (Elapsed.reported d)).text
  /-- There are a hundred if the duration rounds to no more. -/
  short : d.micros ≤ 100 → micros = 100
  /-- Otherwise they are less than one away from the duration. -/
  near : 100 < d.micros → |(micros : ℚ) - d.total / 1000| < 1
  /-- Rounding once more leads to the same number. -/
  again : Binary64.ofUnits (rounded (units d)) = Elapsed.reported d

section Short

variable (short : d.seconds < 2 ^ 31) (fraction : d.nanos < 10 ^ 9)

include short fraction

/-- The microseconds that are computed are less than one away from the duration, -/
theorem abs_microsOf_secondsOf_sub_lt_one :
    |(microsOf (secondsOf d) : ℚ) - d.total / 1000| < 1 := by
  have off := abs_microsOf_secondsOf_sub_lt (by decide) (by decide) short fraction
  exact off.trans (by norm_num)

/-- they stay below `2 ^ 32` seconds, -/
theorem microsOf_secondsOf_lt : microsOf (secondsOf d) < 2 ^ 32 * 10 ^ 6 := by
  have off := (abs_lt.mp (abs_microsOf_secondsOf_sub_lt_one short fraction)).2
  have total : (d.total : ℚ) < 2 ^ 31 * 10 ^ 9 := by
    exact_mod_cast Duration.total_lt short fraction
  have less : (microsOf (secondsOf d) : ℚ) < 2 ^ 32 * 10 ^ 6 := by linarith
  exact_mod_cast less

/-- and from a hundred rounded ones on there are a hundred. -/
theorem hundred_le_microsOf_secondsOf (long : 100 < d.micros) :
    100 ≤ microsOf (secondsOf d) := by
  have off := (abs_lt.mp (abs_microsOf_secondsOf_sub_lt_one short fraction)).1
  have total : 100500 ≤ d.total := by
    unfold Duration.micros at long
    omega
  have total' : (100500 : ℚ) ≤ d.total := by exact_mod_cast total
  have more : (99 : ℚ) < microsOf (secondsOf d) := by linarith
  exact_mod_cast more

end Short

/-- Where the rounded microseconds are no more than a hundred, neither are the computed ones. -/
theorem microsOf_secondsOf_le_hundred (fraction : d.nanos < 10 ^ 9) (short : d.micros ≤ 100) :
    microsOf (secondsOf d) ≤ 100 := by
  have total : d.total ≤ 100499 := by
    unfold Duration.micros at short
    omega
  have seconds : d.seconds < 2 ^ 5 := by
    unfold Duration.total at total
    omega
  have off := (abs_lt.mp
    (abs_microsOf_secondsOf_sub_lt (by decide) (by decide) seconds fraction)).2
  have total' : (d.total : ℚ) ≤ 100499 := by exact_mod_cast total
  have less : (microsOf (secondsOf d) : ℚ) < 101 := by linarith
  exact Nat.lt_add_one_iff.mp (by exact_mod_cast less)

/-- Every duration below `2 ^ 31` seconds is reported as a number of microseconds. -/
theorem exists_reportsMicros (d : Duration) (short : d.seconds < 2 ^ 31)
    (fraction : d.nanos < 10 ^ 9) : ∃ micros, ReportsMicros d micros := by
  have few : max 100 (microsOf (secondsOf d)) < 2 ^ 32 * 10 ^ 6 :=
    max_lt (by decide) (microsOf_secondsOf_lt short fraction)
  have shown : units d = nearest (max 100 (microsOf (secondsOf d))) (10 ^ 6) := units_eq_ofMicros d
  refine ⟨max 100 (microsOf (secondsOf d)), ?_⟩
  generalize counted : max 100 (microsOf (secondsOf d)) = micros at few shown
  refine ⟨?_, ?_, ?_, ?_, ?_, ?_, ?_⟩
  · rw [← counted]
    exact le_max_left _ _
  · rw [reported, shown]
  · have scaled : micros ≤ 2 ^ 32 * 10 ^ 6 := few.le
    exact Binary64.isNearest_nearest million_pos scaled (by decide)
  · rw [reported, shown]
    exact writes_fixed_nearest few
  · intro low
    rw [← counted, max_eq_left (microsOf_secondsOf_le_hundred fraction low)]
  · intro high
    rw [← counted, max_eq_right (hundred_le_microsOf_secondsOf short fraction high)]
    exact abs_microsOf_secondsOf_sub_lt_one short fraction
  · rw [reported, shown, rounded_nearest few]

/-- A duration just short of a half microsecond, by less than its seconds can tell. -/
def coarseWait : Duration := ⟨1234567890, 123456499⟩

/-- It is reported as the microsecond above, which is not the nearest but less than one away. -/
theorem coarseWait_reported :
    coarseWait.seconds < 2 ^ 31 ∧ coarseWait.nanos < 10 ^ 9 ∧
      coarseWait.micros = 1234567890123456 ∧ (∃ micros, ReportsMicros coarseWait micros) ∧
      (Reading.seconds (reported coarseWait)).text = "1234567890.123457" := by
  have short : coarseWait.seconds < 2 ^ 31 := by decide
  have fraction : coarseWait.nanos < 10 ^ 9 := by decide
  exact ⟨short, fraction, by decide, exists_reportsMicros coarseWait short fraction,
    by decide +kernel⟩

end ServiceProbe.Elapsed
