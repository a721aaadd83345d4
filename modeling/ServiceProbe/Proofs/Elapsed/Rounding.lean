import ServiceProbe.Proofs.Elapsed.Range
import ServiceProbe.Proofs.Numeric.Nearest

/-!
# The rounding of reported seconds

The seconds reported for a duration are a whole number of microseconds, the duration rounded half
away from zero, as long as the numbers of the format on the way tell on which side of the half it
lies. They are off by less than `2 ^ (bits - 33)` microseconds for a duration of less than
`2 ^ bits` seconds. So only a duration that near to a half can come out wrong, by one microsecond;
at a half itself the format decides, since few of them are numbers of the format.
-/

namespace ServiceProbe

namespace Duration

/-- All the nanoseconds of a duration. -/
def total (d : Duration) : Nat := d.seconds * 10 ^ 9 + d.nanos

/-- They are fewer than those of the least number of seconds that it stays below. -/
theorem total_lt {d : Duration} {limit : Nat} (short : d.seconds < limit)
    (fraction : d.nanos < 10 ^ 9) : d.total < limit * 10 ^ 9 :=
  calc d.total < d.seconds * 10 ^ 9 + 10 ^ 9 := Nat.add_lt_add_left fraction _
    _ = (d.seconds + 1) * 10 ^ 9 := (Nat.add_one_mul _ _).symm
    _ ≤ limit * 10 ^ 9 := Nat.mul_le_mul_right _ short

/-- Its microseconds, rounded half away from zero. -/
def micros (d : Duration) : Nat := (d.total + 500) / 1000

/-- They are the whole ones, and one more from the half on. -/
theorem micros_eq (d : Duration) :
    d.micros = if 500 ≤ d.total % 1000 then d.total / 1000 + 1 else d.total / 1000 := by
  unfold micros
  split <;> omega

/-- A duration in microseconds: the whole ones and the rest. -/
theorem total_div (d : Duration) :
    (d.total : ℚ) / 1000 = (d.total / 1000 : Nat) + (d.total % 1000 : Nat) / 1000 := by
  have split : (1000 * (d.total / 1000 : Nat) + (d.total % 1000 : Nat) : ℚ) = d.total := by
    exact_mod_cast Nat.div_add_mod d.total 1000
  rw [← split, add_div, mul_div_cancel_left₀ _ (by norm_num)]

end Duration

namespace Elapsed

open Binary64 (nearest ones ones_lt_ones_iff unitsPerOne unitsPerOne_pos cast_unitsPerOne_pos
  IsNearest unitExponent exists_two_pow_mul)

/-- The units of so many microseconds in seconds, and of a tenth of a millisecond if there are
fewer. -/
def ofMicros (micros : Nat) : Nat := nearest (max 100 micros) (10 ^ 6)

section OfMicros

variable {first second : Nat}

/-- A second has microseconds. -/
theorem million_pos : 0 < 10 ^ 6 := by decide

/-- Numbers of microseconds that are told apart and are below `2 ^ 32` seconds have different
units. -/
theorem ofMicros_eq_iff (hf : first < 2 ^ 32 * 10 ^ 6) (hs : second < 2 ^ 32 * 10 ^ 6) :
    ofMicros first = ofMicros second ↔ max 100 first = max 100 second := by
  have coarse : 2 ^ 32 * 10 ^ 6 < 2 ^ 53 := by decide
  have floor : 100 < 2 ^ 32 * 10 ^ 6 := by decide
  constructor
  · intro same
    rcases Nat.lt_trichotomy (max 100 first) (max 100 second) with less | eq | more
    · exact absurd same
        (Binary64.nearest_lt_nearest million_pos less (max_lt floor hs) coarse).ne
    · exact eq
    · exact absurd same
        (Binary64.nearest_lt_nearest million_pos more (max_lt floor hf) coarse).ne'
  · intro same
    rw [ofMicros, ofMicros, same]

/-- What is reported is the number of microseconds that was computed, and no less than the least
number. -/
theorem units_eq_ofMicros (d : Duration) : units d = ofMicros (microsOf (secondsOf d)) := by
  have least : leastUnits = nearest 100 (10 ^ 6) :=
    Binary64.nearest_eq_of_mul_eq (by decide) million_pos rfl
  rw [units, least, places, Nat.pow_eq, ofMicros, Binary64.nearest_max million_pos, max_comm]

end OfMicros

/-- The units of the product that is rounded to whole microseconds. -/
def product (d : Duration) : Nat := nearest (secondsOf d * Nat.pow 10 places) unitsPerOne

variable {d : Duration} {bits : Nat}

/-- The fraction of a second is off by half the finest spacing below one at most, -/
theorem abs_fraction_sub_le (fraction : d.nanos < 10 ^ 9) :
    |ones (nearest d.nanos (Nat.pow 10 9)) - d.nanos / 10 ^ 9| ≤ 1 / 2 ^ 54 := by
  have inside : d.nanos < 2 ^ 0 * Nat.pow 10 9 := by
    rw [Nat.pow_eq]
    omega
  have off := Binary64.abs_nearest_sub_le (by decide) inside
  rwa [Nat.pow_eq, Nat.cast_pow, Nat.cast_ofNat, pow_zero, ← Nat.pow_eq] at off

/-- so that it stays less than one. -/
theorem fraction_lt (fraction : d.nanos < 10 ^ 9) :
    nearest d.nanos (Nat.pow 10 9) < unitsPerOne := by
  have above := (abs_le.mp (abs_fraction_sub_le fraction)).2
  have whole : (d.nanos : ℚ) + 1 ≤ 10 ^ 9 := by exact_mod_cast fraction
  rw [← ones_lt_ones_iff, Binary64.ones_unitsPerOne]
  linarith

/-- The sum of seconds and fraction is less than the next second. -/
theorem sum_lt (short : d.seconds < 2 ^ bits) (fraction : d.nanos < 10 ^ 9) :
    d.seconds * unitsPerOne + nearest d.nanos (Nat.pow 10 9) < 2 ^ bits * unitsPerOne :=
  calc d.seconds * unitsPerOne + nearest d.nanos (Nat.pow 10 9)
      < d.seconds * unitsPerOne + unitsPerOne := Nat.add_lt_add_left (fraction_lt fraction) _
    _ = (d.seconds + 1) * unitsPerOne := (Nat.add_one_mul _ _).symm
    _ ≤ 2 ^ bits * unitsPerOne := Nat.mul_le_mul_right _ short

/-- The seconds are the sum of the whole ones and the fraction, rounded. -/
theorem secondsOf_eq (exact : d.seconds < 2 ^ 53) :
    secondsOf d =
      nearest (d.seconds * unitsPerOne + nearest d.nanos (Nat.pow 10 9)) unitsPerOne := by
  rw [secondsOf, Binary64.nearest_one exact.le]

/-- A million times so many units are a million times their number. -/
theorem ones_scaled (seconds : Nat) :
    ones (seconds * Nat.pow 10 places) = ones seconds * 10 ^ 6 := by
  rw [ones, ones, places, Nat.pow_eq, Nat.cast_mul, Nat.cast_pow, Nat.cast_ofNat,
    div_mul_eq_mul_div]

/-- A million times so many seconds is off by half the spacing of the product at most. -/
theorem abs_scaled_sub_le {seconds : Nat} (inside : seconds ≤ 2 ^ bits * unitsPerOne) :
    |ones (nearest (seconds * Nat.pow 10 places) unitsPerOne) - ones seconds * 10 ^ 6| ≤
      2 ^ (bits + 20) / 2 ^ 54 := by
  have positive := Nat.mul_pos (Nat.two_pow_pos bits) unitsPerOne_pos
  have scaled_lt : seconds * Nat.pow 10 places < 2 ^ (bits + 20) * unitsPerOne :=
    calc seconds * Nat.pow 10 places ≤ 2 ^ bits * unitsPerOne * Nat.pow 10 places :=
          Nat.mul_le_mul_right _ inside
      _ < 2 ^ bits * unitsPerOne * 2 ^ 20 := Nat.mul_lt_mul_of_pos_left (by decide) positive
      _ = 2 ^ (bits + 20) * unitsPerOne := by rw [pow_add]; ring
  have off := Binary64.abs_nearest_sub_le unitsPerOne_pos scaled_lt
  rwa [← ones, ones_scaled] at off

section Errors

variable (exact : bits ≤ 53) (short : d.seconds < 2 ^ bits) (fraction : d.nanos < 10 ^ 9)

include exact short

/-- The whole seconds are numbers of the format. -/
theorem seconds_lt : d.seconds < 2 ^ 53 :=
  short.trans_le (Nat.pow_le_pow_right Nat.zero_lt_two exact)

include fraction

/-- Rounding the sum does not lead beyond the next power of two. -/
theorem secondsOf_le_two_pow : secondsOf d ≤ 2 ^ bits * unitsPerOne := by
  rw [secondsOf_eq (seconds_lt exact short)]
  exact Binary64.nearest_le_two_pow unitsPerOne_pos (sum_lt short fraction).le

/-- The seconds are off by half the spacing of the fraction and half their own at most. -/
theorem abs_secondsOf_sub_le :
    |ones (secondsOf d) - d.total / 10 ^ 9| ≤ 2 ^ bits / 2 ^ 54 + 1 / 2 ^ 54 := by
  have off := Binary64.abs_nearest_sub_le unitsPerOne_pos (sum_lt short fraction)
  have sum : ((d.seconds * unitsPerOne + nearest d.nanos (Nat.pow 10 9) : Nat) : ℚ) / unitsPerOne =
      d.seconds + ones (nearest d.nanos (Nat.pow 10 9)) := by
    rw [ones, Nat.cast_add, Nat.cast_mul, add_div, mul_div_cancel_right₀ _ cast_unitsPerOne_pos.ne']
  have total : (d.total : ℚ) / 10 ^ 9 = d.seconds + d.nanos / 10 ^ 9 := by
    rw [Duration.total]
    push_cast
    ring
  rw [← secondsOf_eq (seconds_lt exact short), sum] at off
  rw [total]
  calc |ones (secondsOf d) - (d.seconds + d.nanos / 10 ^ 9)|
      = |(ones (secondsOf d) - (d.seconds + ones (nearest d.nanos (Nat.pow 10 9)))) +
          (ones (nearest d.nanos (Nat.pow 10 9)) - d.nanos / 10 ^ 9)| := by ring_nf
    _ ≤ |ones (secondsOf d) - (d.seconds + ones (nearest d.nanos (Nat.pow 10 9)))| +
          |ones (nearest d.nanos (Nat.pow 10 9)) - d.nanos / 10 ^ 9| := abs_add_le _ _
    _ ≤ 2 ^ bits / 2 ^ 54 + 1 / 2 ^ 54 := add_le_add off (abs_fraction_sub_le fraction)

/-- The product is off by half its own spacing at most. -/
theorem abs_product_sub_le :
    |ones (product d) - ones (secondsOf d) * 10 ^ 6| ≤ 2 ^ (bits + 20) / 2 ^ 54 :=
  abs_scaled_sub_le (secondsOf_le_two_pow exact short fraction)

/-- From five bits on, the microseconds are off by less than `2 ^ (bits - 33)`. -/
theorem abs_product_sub_lt (wide : 5 ≤ bits) :
    |ones (product d) - d.total / 1000| < 2 ^ bits / 2 ^ 33 := by
  have seconds := abs_le.mp (abs_secondsOf_sub_le exact short fraction)
  have rounded := abs_le.mp (abs_product_sub_le exact short fraction)
  have large : (2 : ℚ) ^ 5 ≤ 2 ^ bits := pow_le_pow_right₀ one_le_two wide
  -- A million of the errors in seconds and the error of the product, which is as large as two to the
  -- twentieth of them, make less than twice that power.
  rw [pow_add] at rounded
  rw [abs_lt]
  constructor <;> linarith

end Errors

/-- So many microseconds are computed where the product is not half a microsecond short of them. -/
theorem le_microsOf_secondsOf_iff {count : Nat} :
    count ≤ microsOf (secondsOf d) ↔ (count : ℚ) ≤ ones (product d) + 1 / 2 := by
  have one := cast_unitsPerOne_pos
  have half : ones (product d) + 1 / 2 = (2 * product d + unitsPerOne) / (2 * unitsPerOne) := by
    rw [ones]
    field_simp
  have scaled : (count : ℚ) * (2 * unitsPerOne) = 2 * (count * unitsPerOne) := by ring
  rw [microsOf, half, le_div_iff₀ (mul_pos two_pos one), scaled]
  refine (Rounding.le_nearest_away_iff unitsPerOne_pos).trans ?_
  exact_mod_cast Iff.rfl

/-- The product comes to the half just as the duration does, if that keeps away from it. -/
theorem half_le_product_iff {margin : Nat} (wide : 5 ≤ bits) (exact : bits ≤ 53)
    (short : d.seconds < 2 ^ bits) (fraction : d.nanos < 10 ^ 9)
    (enough : 1000 * 2 ^ bits ≤ 2 ^ 33 * margin)
    (away : d.total % 1000 + margin ≤ 500 ∨ 500 + margin ≤ d.total % 1000) :
    (d.total / 1000 : Nat) + 1 / 2 ≤ ones (product d) ↔ 500 ≤ d.total % 1000 := by
  have off := abs_lt.mp (abs_product_sub_lt exact short fraction wide)
  have error : (2 : ℚ) ^ bits / 2 ^ 33 ≤ margin / 1000 := by
    rw [div_le_div_iff₀ (by positivity) (by norm_num), mul_comm, mul_comm (margin : ℚ)]
    exact_mod_cast enough
  have some : 0 < margin := by
    have power := Nat.two_pow_pos bits
    omega
  rw [d.total_div] at off
  rcases away with below | above
  · have below' : ((d.total % 1000 : Nat) : ℚ) + margin ≤ 500 := by exact_mod_cast below
    constructor
    · intro reached
      linarith
    · intro half
      omega
  · have above' : (500 : ℚ) + margin ≤ (d.total % 1000 : Nat) := by exact_mod_cast above
    constructor
    · intro
      omega
    · intro
      linarith

section Neighbours

variable (short : d.seconds < 2 ^ 31) (fraction : d.nanos < 10 ^ 9)

include short fraction

/-- The microseconds that are computed are the whole ones of the duration, and one more where the
product has come to the half. -/
theorem microsOf_secondsOf_eq :
    microsOf (secondsOf d) =
      if (d.total / 1000 : Nat) + 1 / 2 ≤ ones (product d) then d.total / 1000 + 1
      else d.total / 1000 := by
  have off := abs_lt.mp (abs_product_sub_lt (by decide) short fraction (by decide))
  have rest : ((d.total % 1000 : Nat) : ℚ) + 1 ≤ 1000 := by
    exact_mod_cast Nat.mod_lt d.total (by decide)
  have positive : (0 : ℚ) ≤ (d.total % 1000 : Nat) := Nat.cast_nonneg _
  rw [d.total_div] at off
  norm_num at off
  have low : d.total / 1000 ≤ microsOf (secondsOf d) := by
    rw [le_microsOf_secondsOf_iff]
    linarith
  have high : ¬ d.total / 1000 + 2 ≤ microsOf (secondsOf d) := by
    rw [le_microsOf_secondsOf_iff]
    push_cast
    linarith
  have next : d.total / 1000 + 1 ≤ microsOf (secondsOf d) ↔
      (d.total / 1000 : Nat) + 1 / 2 ≤ ones (product d) := by
    rw [le_microsOf_secondsOf_iff]
    push_cast
    constructor <;> intro <;> linarith
  split
  · rename_i half
    have reached := next.mpr half
    omega
  · rename_i half
    have missed := mt next.mp half
    omega

/-- Where the product comes to the half just as the duration does, its rounded microseconds are
computed. -/
theorem microsOf_secondsOf_of_iff
    (sides : (d.total / 1000 : Nat) + 1 / 2 ≤ ones (product d) ↔ 500 ≤ d.total % 1000) :
    microsOf (secondsOf d) = d.micros := by
  rw [microsOf_secondsOf_eq short fraction, d.micros_eq]
  simp only [sides]

/-- Otherwise the microseconds that are computed are off by one. -/
theorem microsOf_secondsOf_ne
    (sides : ¬ ((d.total / 1000 : Nat) + 1 / 2 ≤ ones (product d) ↔ 500 ≤ d.total % 1000)) :
    microsOf (secondsOf d) ≠ d.micros ∧
      max (microsOf (secondsOf d)) d.micros = d.total / 1000 + 1 := by
  rw [microsOf_secondsOf_eq short fraction, d.micros_eq]
  by_cases half : 500 ≤ d.total % 1000
  · have missed : ¬ ((d.total / 1000 : Nat) + 1 / 2 ≤ ones (product d)) :=
      fun reached => sides ⟨fun _ => half, fun _ => reached⟩
    rw [if_neg missed, if_pos half]
    omega
  · have reached : (d.total / 1000 : Nat) + 1 / 2 ≤ ones (product d) :=
      by_contra fun missed => sides ⟨fun h => absurd h missed, fun h => absurd h half⟩
    rw [if_pos reached, if_neg half]
    omega

/-- A whole number of fractions `1 / 2 ^ 9` of a second is not rounded on its way to seconds. -/
theorem secondsOf_of_parts {parts exponent : Nat} (split : d.nanos = 5 ^ 9 * parts)
    (unit : 2 ^ exponent * 2 ^ 9 = unitsPerOne) (range : exponent ≤ 2045) :
    secondsOf d = (d.seconds * 2 ^ 9 + parts) * 2 ^ exponent := by
  have few : parts < 2 ^ 9 := by
    rw [split] at fraction
    exact Nat.lt_of_mul_lt_mul_left (fraction.trans_eq (by decide : 10 ^ 9 = 5 ^ 9 * 2 ^ 9))
  have sum_few : d.seconds * 2 ^ 9 + parts < 2 ^ 40 :=
    calc d.seconds * 2 ^ 9 + parts < d.seconds * 2 ^ 9 + 2 ^ 9 := Nat.add_lt_add_left few _
      _ = (d.seconds + 1) * 2 ^ 9 := (Nat.add_one_mul _ _).symm
      _ ≤ 2 ^ 31 * 2 ^ 9 := Nat.mul_le_mul_right _ short
  have nanos : nearest d.nanos (Nat.pow 10 9) = parts * 2 ^ exponent := by
    apply Binary64.nearest_eq_of_representable (by decide)
    · exact ⟨parts, exponent, few.trans (by decide), range, rfl⟩
    · rw [split, ← unit, Nat.pow_eq]
      ring
  rw [secondsOf_eq (short.trans (by decide)), nanos]
  apply Binary64.nearest_eq_of_representable unitsPerOne_pos
  · exact ⟨_, exponent, sum_few.trans (by decide), range, rfl⟩
  · rw [← unit]
    ring

/-- Nor is it rounded on its way to microseconds, if these end in a half. -/
theorem two_mul_product_of_dyadic (dyadic : 5 ^ 9 ∣ d.nanos) (half : d.total % 1000 = 500) :
    2 * product d = (2 * (d.total / 1000) + 1) * unitsPerOne := by
  obtain ⟨parts, split⟩ := dyadic
  obtain ⟨exponent, range, unit⟩ := exists_two_pow_mul (by decide : 9 ≤ unitExponent)
  have inside : exponent + 8 ≤ 2045 := by
    unfold unitExponent at range
    omega
  have few : 2 * (d.total / 1000) + 1 < 2 ^ 53 := by
    have total := Duration.total_lt short fraction
    omega
  have total : (d.seconds * 2 ^ 9 + parts) * 5 ^ 9 = 500 * (2 * (d.total / 1000) + 1) :=
    calc (d.seconds * 2 ^ 9 + parts) * 5 ^ 9 = d.seconds * 10 ^ 9 + 5 ^ 9 * parts := by ring
      _ = 1000 * (d.total / 1000) + 500 := by
        rw [← split, ← half, Nat.div_add_mod, Duration.total]
      _ = 500 * (2 * (d.total / 1000) + 1) := by ring
  have micros : (d.seconds * 2 ^ 9 + parts) * 10 ^ 6 = (2 * (d.total / 1000) + 1) * 2 ^ 8 := by
    apply Nat.eq_of_mul_eq_mul_right (by decide : 0 < 5 ^ 9)
    rw [Nat.mul_right_comm, total]
    ring
  have exact : product d = (2 * (d.total / 1000) + 1) * 2 ^ (exponent + 8) := by
    rw [product, places, Nat.pow_eq,
      secondsOf_of_parts short fraction split unit (Nat.le_of_add_right_le inside)]
    apply Binary64.nearest_eq_of_representable unitsPerOne_pos
    · exact ⟨_, exponent + 8, few, inside, rfl⟩
    · rw [Nat.mul_right_comm _ (2 ^ exponent), micros, pow_add]
      ring
  rw [exact, ← unit]
  ring

/-- So such a half goes up. -/
theorem microsOf_secondsOf_of_dyadic (dyadic : 5 ^ 9 ∣ d.nanos) (half : d.total % 1000 = 500) :
    microsOf (secondsOf d) = d.micros := by
  apply microsOf_secondsOf_of_iff short fraction
  have exact := two_mul_product_of_dyadic short fraction dyadic half
  have doubled : (2 * product d : ℚ) = (2 * (d.total / 1000 : Nat) + 1) * unitsPerOne := by
    exact_mod_cast exact
  have reached : ones (product d) = (d.total / 1000 : Nat) + 1 / 2 := by
    rw [ones, div_eq_iff cast_unitsPerOne_pos.ne']
    linarith
  rw [reached]
  exact ⟨fun _ => half.ge, fun _ => le_rfl⟩

end Neighbours

/-- What it means that a duration is reported to the microsecond, as far as the numbers of the
format can tell where it lies. -/
structure RoundsToMicros (d : Duration) : Prop where
  /-- The number that stands for the rounded microseconds is the number of the format that is nearest
  to them, in seconds. -/
  documented : IsNearest (ofMicros d.micros) (max 100 d.micros) (10 ^ 6)
  /-- Reported are the whole microseconds of the duration or one more. -/
  neighbour : reported d = .ofUnits (ofMicros (d.total / 1000)) ∨
    reported d = .ofUnits (ofMicros (d.total / 1000 + 1))
  /-- They are the rounded ones if and only if both of these are reported alike, as a tenth of a
  millisecond, or the product has come to the half just as the duration has. -/
  rounded_iff : reported d = .ofUnits (ofMicros d.micros) ↔
    d.total < 100000 ∨
      ((d.total / 1000 : Nat) + 1 / 2 ≤ ones (product d) ↔ 500 ≤ d.total % 1000)
  /-- They are so where the duration keeps away from the half: by a nanosecond if it is less than
  `2 ^ 23` seconds, and by twice as many for every further bit, -/
  away : ∀ bits margin, 5 ≤ bits → d.seconds < 2 ^ bits → 1000 * 2 ^ bits ≤ 2 ^ 33 * margin →
    d.total % 1000 + margin ≤ 500 ∨ 500 + margin ≤ d.total % 1000 →
      reported d = .ofUnits (ofMicros d.micros)
  /-- and at a half that is a whole number of fractions `1 / 2 ^ 9` of a second. -/
  dyadic : d.total % 1000 = 500 → 5 ^ 9 ∣ d.nanos → reported d = .ofUnits (ofMicros d.micros)

/-- Every duration below `2 ^ 31` seconds is reported to the microsecond, as far as the numbers of
the format can tell where it lies. -/
theorem roundsToMicros (d : Duration) (short : d.seconds < 2 ^ 31) (fraction : d.nanos < 10 ^ 9) :
    RoundsToMicros d := by
  have total_lt := Duration.total_lt short fraction
  have micros_lt : d.micros < 2 ^ 32 * 10 ^ 6 := by
    unfold Duration.micros
    omega
  have shown (micros : Nat) (computed : microsOf (secondsOf d) = micros) :
      reported d = .ofUnits (ofMicros micros) := by
    rw [reported, units_eq_ofMicros, computed]
  have rounded_iff : reported d = .ofUnits (ofMicros d.micros) ↔ d.total < 100000 ∨
      ((d.total / 1000 : Nat) + 1 / 2 ≤ ones (product d) ↔ 500 ≤ d.total % 1000) := by
    rw [reported, units_eq_ofMicros, Binary64.ofUnits_inj]
    by_cases sides : (d.total / 1000 : Nat) + 1 / 2 ≤ ones (product d) ↔ 500 ≤ d.total % 1000
    · rw [microsOf_secondsOf_of_iff short fraction sides]
      exact ⟨fun _ => .inr sides, fun _ => rfl⟩
    · obtain ⟨differ, larger⟩ := microsOf_secondsOf_ne short fraction sides
      rw [ofMicros_eq_iff (by omega) micros_lt, or_iff_left sides]
      omega
  refine ⟨?_, ?_, rounded_iff, ?_, ?_⟩
  · have scaled : max 100 d.micros ≤ 2 ^ 52 * 10 ^ 6 := by omega
    exact Binary64.isNearest_nearest million_pos scaled (by decide)
  · by_cases reached : (d.total / 1000 : Nat) + 1 / 2 ≤ ones (product d)
    · exact .inr (shown _ ((microsOf_secondsOf_eq short fraction).trans (if_pos reached)))
    · exact .inl (shown _ ((microsOf_secondsOf_eq short fraction).trans (if_neg reached)))
  · intro bits margin wide narrow enough keeps
    have exact : bits ≤ 53 := by
      by_contra large
      have power : 2 ^ 54 ≤ 2 ^ bits := Nat.pow_le_pow_right Nat.zero_lt_two (by omega)
      omega
    exact shown _ (microsOf_secondsOf_of_iff short fraction
      (half_le_product_iff wide exact narrow fraction enough keeps))
  · intro half dyadic
    exact shown _ (microsOf_secondsOf_of_dyadic short fraction dyadic half)

/-- A duration that is no half and fewer than `2 ^ 23` seconds. -/
def longWait : Duration := ⟨8388607, 999999501⟩

/-- It is reported as the next second. -/
theorem longWait_reported :
    longWait.seconds < 2 ^ 31 ∧ longWait.nanos < 10 ^ 9 ∧
      longWait.micros = 8388608 * 10 ^ 6 ∧
      reported longWait = .ofUnits (ofMicros (8388608 * 10 ^ 6)) := by
  have short : longWait.seconds < 2 ^ 31 := by decide
  have fraction : longWait.nanos < 10 ^ 9 := by decide
  exact ⟨short, fraction, by decide, (roundsToMicros longWait short fraction).away 23 1 (by decide)
    (by decide) (by decide) (by decide)⟩

/-- A duration that ends in half a microsecond. -/
def halfWait : Duration := ⟨0, 124500⟩

/-- Its seconds are no number of the format, and the half goes down. -/
theorem halfWait_reported :
    halfWait.seconds < 2 ^ 31 ∧ halfWait.nanos < 10 ^ 9 ∧ halfWait.micros = 125 ∧
      reported halfWait = .ofUnits (ofMicros 124) ∧
      reported halfWait ≠ .ofUnits (ofMicros halfWait.micros) := by
  decide +kernel

end Elapsed

end ServiceProbe
