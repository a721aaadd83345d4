import Mathlib.Algebra.Order.Field.Basic
import Mathlib.Algebra.Order.Ring.Rat
import Mathlib.Tactic.FieldSimp
import Mathlib.Tactic.Linarith
import Mathlib.Tactic.NormNum
import Mathlib.Tactic.Positivity
import ServiceProbe.Proofs.Numeric.Binary64

/-!
# How near the nearest number is

Rounding to the format keeps the order, leaves a number of the format where it is, even with less
than half its spacing on top, and moves a quotient below `2 ^ bound` by no more than
`2 ^ (bound - 54)`. So the steps of a decimal grid that is much coarser than that stay apart. No
number of the format is nearer than the nearest one.
-/

namespace ServiceProbe

namespace Rounding

section Goes

variable {tie : Tie} {q r den : Nat}

/-- A quotient that goes up is at least half way. -/
theorem le_two_mul_of_goesUp (up : goesUp tie q r den = true) : den ≤ 2 * r := by
  unfold goesUp at up
  cases order : compare (2 * r) den with
  | lt =>
    rw [order] at up
    cases up
  | eq => exact (Nat.compare_eq_eq.mp order).ge
  | gt => exact (Nat.compare_eq_gt.mp order).le

/-- One that stays is not beyond it, -/
theorem two_mul_le_of_not_goesUp (stays : ¬ goesUp tie q r den = true) : 2 * r ≤ den := by
  unfold goesUp at stays
  cases order : compare (2 * r) den with
  | lt => exact (Nat.compare_eq_lt.mp order).le
  | eq => exact (Nat.compare_eq_eq.mp order).le
  | gt =>
    rw [order] at stays
    exact absurd rfl stays

/-- and where half ways go away from zero it is short of it. -/
theorem goesUp_away_iff : goesUp .away q r den = true ↔ den ≤ 2 * r := by
  refine ⟨le_two_mul_of_goesUp, fun half => ?_⟩
  unfold goesUp
  cases order : compare (2 * r) den with
  | lt => exact absurd (Nat.compare_eq_lt.mp order) (Nat.not_lt.mpr half)
  | eq => rfl
  | gt => rfl

/-- What goes up still does so with a larger rest. -/
theorem goesUp_of_le {r' den' : Nat} (positive : 0 < den) (positive' : 0 < den')
    (h : r * den' ≤ r' * den) (up : goesUp tie q r den = true) :
    goesUp tie q r' den' = true := by
  have half := le_two_mul_of_goesUp up
  have scaled : den * den' ≤ 2 * r' * den :=
    calc den * den' ≤ 2 * r * den' := Nat.mul_le_mul_right _ half
      _ = 2 * (r * den') := by ring
      _ ≤ 2 * (r' * den) := Nat.mul_le_mul_left _ h
      _ = 2 * r' * den := by ring
  rw [Nat.mul_comm] at scaled
  have half' : den' ≤ 2 * r' := Nat.le_of_mul_le_mul_right scaled positive
  rcases Nat.lt_or_eq_of_le half' with beyond | tied'
  · unfold goesUp
    rw [Nat.compare_eq_gt.mpr beyond]
  · -- The larger rest is half way, so the smaller one is too, and the floor decides for both.
    have below : 2 * r * den' ≤ den * den' :=
      calc 2 * r * den' = 2 * (r * den') := by ring
        _ ≤ 2 * (r' * den) := Nat.mul_le_mul_left _ h
        _ = den * (2 * r') := by ring
        _ = den * den' := by rw [← tied']
    have tied := Nat.le_antisymm (Nat.le_of_mul_le_mul_right below positive') half
    unfold goesUp at up ⊢
    rw [Nat.compare_eq_eq.mpr tied] at up
    rw [Nat.compare_eq_eq.mpr tied'.symm]
    exact up

end Goes

variable {num den num' den' : Nat}

/-- The floors of quotients are ordered as these are. -/
theorem div_le_div_of_mul_le (positive : 0 < den) (positive' : 0 < den')
    (h : num * den' ≤ num' * den) : num / den ≤ num' / den' := by
  apply (Nat.le_div_iff_mul_le positive').mpr
  apply Nat.le_of_mul_le_mul_right _ positive
  calc num / den * den' * den = num / den * den * den' := by ring
    _ ≤ num * den' := Nat.mul_le_mul_right _ (Nat.div_mul_le_self num den)
    _ ≤ num' * den := h

/-- Rounding is off by half at most. -/
theorem nearest_within_half (positive : 0 < den) (tie : Tie) (num : Nat) :
    2 * num ≤ 2 * (nearest tie num den * den) + den ∧
      2 * (nearest tie num den * den) ≤ 2 * num + den := by
  have split := Nat.div_add_mod' num den
  unfold nearest
  split
  · rename_i up
    have half := le_two_mul_of_goesUp up
    have rest := Nat.mod_lt num positive
    rw [Nat.add_one_mul (num / den)]
    omega
  · rename_i stays
    have half := two_mul_le_of_not_goesUp stays
    omega

/-- A whole number that a quotient is less than half away from is the one it is rounded to. -/
theorem nearest_eq_of_lt_half (positive : 0 < den) {count : Nat}
    (above : 2 * num < 2 * (count * den) + den) (below : 2 * (count * den) < 2 * num + den)
    (tie : Tie) : nearest tie num den = count := by
  obtain ⟨high, low⟩ := nearest_within_half positive tie num
  have not_more : nearest tie num den * den < (count + 1) * den := by
    rw [Nat.add_one_mul]
    omega
  have not_less : count * den < (nearest tie num den + 1) * den := by
    rw [Nat.add_one_mul]
    omega
  have upper := Nat.lt_of_mul_lt_mul_right not_more
  have lower := Nat.lt_of_mul_lt_mul_right not_less
  omega

/-- Rounding is off by half at most, either way, -/
theorem abs_nearest_sub_le (positive : 0 < den) (tie : Tie) (num : Nat) :
    |((nearest tie num den * den : Nat) : ℚ) - num| ≤ den / 2 := by
  obtain ⟨above, below⟩ := nearest_within_half positive tie num
  have above' : (2 * num : ℚ) ≤ 2 * (nearest tie num den * den : Nat) + den := by
    exact_mod_cast above
  have below' : (2 * (nearest tie num den * den : Nat) : ℚ) ≤ 2 * num + den := by
    exact_mod_cast below
  rw [abs_le]
  constructor <;> linarith

/-- and no whole number is nearer. -/
theorem abs_nearest_sub_le_of_count (positive : 0 < den) (tie : Tie) (num count : Nat) :
    |((nearest tie num den * den : Nat) : ℚ) - num| ≤ |((count * den : Nat) : ℚ) - num| := by
  have half := abs_nearest_sub_le positive tie num
  obtain ⟨above, below⟩ := abs_le.mp half
  rcases Nat.lt_trichotomy count (nearest tie num den) with small | same | large
  · have step : ((count * den : Nat) : ℚ) + den ≤ (nearest tie num den * den : Nat) := by
      rw [← Nat.cast_add, ← Nat.add_one_mul]
      exact Nat.cast_le.mpr (Nat.mul_le_mul_right den small)
    exact half.trans (le_abs.mpr (.inr (by linarith)))
  · rw [same]
  · have step : ((nearest tie num den * den : Nat) : ℚ) + den ≤ (count * den : Nat) := by
      rw [← Nat.cast_add, ← Nat.add_one_mul]
      exact Nat.cast_le.mpr (Nat.mul_le_mul_right den large)
    exact half.trans (le_abs.mpr (.inl (by linarith)))

/-- Rounding keeps the order of quotients. -/
theorem nearest_mono (positive : 0 < den) (positive' : 0 < den') (h : num * den' ≤ num' * den)
    (tie : Tie) : nearest tie num den ≤ nearest tie num' den' := by
  rcases Nat.lt_or_eq_of_le (div_le_div_of_mul_le positive positive' h) with below | same
  · have whole : num' / den' ≤ nearest tie num' den' :=
      le_nearest positive' (Nat.div_mul_le_self num' den') tie
    have next : nearest tie num den ≤ num / den + 1 := by
      unfold nearest
      split <;> omega
    omega
  · have rests : num % den * den' ≤ num' % den' * den := by
      have split := Nat.div_add_mod' num den
      have split' := Nat.div_add_mod' num' den'
      rw [← split, ← split', ← same, Nat.add_mul, Nat.add_mul] at h
      have common : num / den * den * den' = num / den * den' * den := by ring
      omega
    unfold nearest
    rw [← same]
    split
    · rename_i up
      rw [if_pos (goesUp_of_le positive positive' rests up)]
    · split <;> omega

/-- A number is reached, with half ways going away from zero, from half a step below it on. -/
theorem le_nearest_away_iff (positive : 0 < den) {count : Nat} :
    count ≤ nearest .away num den ↔ 2 * (count * den) ≤ 2 * num + den := by
  have closed : nearest .away num den = (2 * num + den) / (2 * den) := by
    have split := Nat.div_add_mod' num den
    have rest := Nat.mod_lt num positive
    have grid : num / den * (2 * den) = 2 * (num / den * den) := by ring
    symm
    unfold nearest
    split
    · rename_i up
      have half := goesUp_away_iff.mp up
      apply Nat.div_eq_of_lt_le
      · rw [Nat.add_one_mul (num / den), grid]
        omega
      · rw [Nat.add_one_mul (num / den + 1), Nat.add_one_mul (num / den), grid]
        omega
    · rename_i stays
      have short := mt goesUp_away_iff.mpr stays
      apply Nat.div_eq_of_lt_le
      · rw [grid]
        omega
      · rw [Nat.add_one_mul (num / den), grid]
        omega
  have grid : count * (2 * den) = 2 * (count * den) := by ring
  rw [closed, Nat.le_div_iff_mul_le (Nat.mul_pos Nat.zero_lt_two positive), grid]

end Rounding

namespace Binary64

variable {num den num' den' bound : Nat}

/-- Larger numbers are not spaced more narrowly. -/
theorem spacing_mono {small large : Nat} (h : small ≤ large) : spacing small ≤ spacing large := by
  by_cases wide : spacing small = 0
  · omega
  · have order := ((two_pow_spacing_le wide).trans h).trans_lt (lt_two_pow_spacing large)
    have exponents := (Nat.pow_lt_pow_iff_right Nat.one_lt_two).mp order
    omega

/-- The nearest number has at most 53 bits above the spacing around the quotient, or is the power of
two behind those. -/
theorem nearest_le_two_pow_spacing (positive : 0 < den) :
    nearest num den ≤ 2 ^ (53 + spacing (num * unitsPerOne / den)) := by
  obtain ⟨significand, fits, eq⟩ := exists_significand_nearest num positive
  rw [eq, pow_add]
  exact Nat.mul_le_mul_right _ fits

/-- It has as many, unless the spacing is the smallest. -/
theorem two_pow_spacing_le_nearest (positive : 0 < den)
    (wide : spacing (num * unitsPerOne / den) ≠ 0) :
    2 ^ (52 + spacing (num * unitsPerOne / den)) ≤ nearest num den := by
  have low := two_pow_spacing_le wide
  have floor := Nat.div_mul_le_self (num * unitsPerOne) den
  unfold nearest
  dsimp only
  generalize spacing (num * unitsPerOne / den) = e at low
  rw [pow_add]
  apply Nat.mul_le_mul_right
  apply Rounding.le_nearest (Nat.mul_pos positive (Nat.two_pow_pos e))
  calc 2 ^ 52 * (den * 2 ^ e) = 2 ^ (52 + e) * den := by rw [pow_add]; ring
    _ ≤ num * unitsPerOne / den * den := Nat.mul_le_mul_right _ low
    _ ≤ num * unitsPerOne := floor

/-- Rounding to the format keeps the order of quotients. -/
theorem nearest_mono (positive : 0 < den) (positive' : 0 < den') (h : num * den' ≤ num' * den) :
    nearest num den ≤ nearest num' den' := by
  have scaled : num * unitsPerOne * den' ≤ num' * unitsPerOne * den :=
    calc num * unitsPerOne * den' = num * den' * unitsPerOne := by ring
      _ ≤ num' * den * unitsPerOne := Nat.mul_le_mul_right _ h
      _ = num' * unitsPerOne * den := by ring
  have floors := Rounding.div_le_div_of_mul_le positive positive' scaled
  rcases Nat.lt_or_eq_of_le (spacing_mono floors) with below | same
  · -- A power of two of the format lies between quotients of different spacings.
    have wide : spacing (num' * unitsPerOne / den') ≠ 0 := Nat.ne_of_gt (Nat.zero_lt_of_lt below)
    calc nearest num den ≤ 2 ^ (53 + spacing (num * unitsPerOne / den)) :=
          nearest_le_two_pow_spacing positive
      _ ≤ 2 ^ (52 + spacing (num' * unitsPerOne / den')) :=
          Nat.pow_le_pow_right Nat.zero_lt_two (by omega)
      _ ≤ nearest num' den' := two_pow_spacing_le_nearest positive' wide
  · unfold nearest
    dsimp only
    rw [← same]
    apply Nat.mul_le_mul_right
    apply Rounding.nearest_mono (Nat.mul_pos positive (Nat.two_pow_pos _))
      (Nat.mul_pos positive' (Nat.two_pow_pos _))
    rw [← Nat.mul_assoc, ← Nat.mul_assoc]
    exact Nat.mul_le_mul_right _ scaled

/-- Equal quotients have the same nearest number. -/
theorem nearest_eq_of_mul_eq (positive : 0 < den) (positive' : 0 < den')
    (h : num * den' = num' * den) : nearest num den = nearest num' den' :=
  Nat.le_antisymm (nearest_mono positive positive' h.le) (nearest_mono positive' positive h.ge)

/-- The larger of two numerators has the larger nearest number. -/
theorem nearest_max (positive : 0 < den) (first second : Nat) :
    nearest (max first second) den = max (nearest first den) (nearest second den) := by
  have monotone : Monotone fun num => nearest num den :=
    fun _ _ order => nearest_mono positive positive (Nat.mul_le_mul_right den order)
  exact monotone.map_max

/-- A quotient that is a number of the format is its own nearest one. -/
theorem nearest_eq_of_representable {units : Nat} (positive : 0 < den)
    (word : Representable units) (exact : num * unitsPerOne = units * den) :
    nearest num den = units := by
  have whole : num * unitsPerOne / den = units := Nat.div_eq_of_eq_mul_left positive exact
  obtain ⟨significand, -, split, -, -⟩ := word.on_spacing
  have grid : significand * (den * 2 ^ spacing units) = num * unitsPerOne := by
    rw [exact]
    conv_rhs => rw [split]
    ring
  have step := Nat.mul_pos positive (Nat.two_pow_pos (spacing units))
  have rounded := Nat.le_antisymm (Rounding.nearest_le step grid.ge .toEven)
    (Rounding.le_nearest step grid.le .toEven)
  unfold nearest
  dsimp only
  rw [whole, Nat.pow_eq, rounded, ← split]

/-- Whole numbers of up to 53 bits belong to the format, and so does the next one. -/
theorem nearest_one {count : Nat} (fits : count ≤ 2 ^ 53) :
    nearest count 1 = count * unitsPerOne := by
  apply nearest_eq_of_representable Nat.zero_lt_one _ (Nat.mul_one _).symm
  rcases Nat.lt_or_eq_of_le fits with inside | rfl
  · exact ⟨count, unitExponent, inside, by decide, by rw [unitsPerOne_eq]⟩
  · exact ⟨2 ^ 52, unitExponent + 1, by decide, by decide, by rw [unitsPerOne_eq]; ring⟩

/-- A number of the format is its own nearest one. -/
theorem nearest_unitsPerOne {units : Nat} (word : Representable units) :
    nearest units unitsPerOne = units :=
  nearest_eq_of_representable unitsPerOne_pos word rfl

/-- A number has the spacing whose 53 bits it fills. -/
theorem spacing_eq {units e : Nat} (low : 2 ^ (52 + e) ≤ units) (high : units < 2 ^ (53 + e)) :
    spacing units = e := by
  have positive : units ≠ 0 := (Nat.two_pow_pos (52 + e)).trans_le low |>.ne'
  have log : units.log2 = 52 + e :=
    (Nat.log2_eq_iff positive).mpr ⟨low, by rwa [Nat.add_right_comm]⟩
  rw [spacing, log, Nat.add_sub_cancel_left]

/-- A number of the format swallows what is less than half its spacing. -/
theorem nearest_add {units rest : Nat} (word : Representable units)
    (small : 2 * rest < 2 ^ spacing units) : nearest (units + rest) unitsPerOne = units := by
  obtain ⟨significand, fits, split, -, -⟩ := word.on_spacing
  have same : spacing (units + rest) = spacing units := by
    by_cases wide : spacing units = 0
    · rw [wide] at small
      rw [show rest = 0 by omega, Nat.add_zero]
    · apply spacing_eq ((two_pow_spacing_le wide).trans (Nat.le_add_right units rest))
      calc units + rest < significand * 2 ^ spacing units + 2 ^ spacing units := by omega
        _ = (significand + 1) * 2 ^ spacing units := (Nat.add_one_mul _ _).symm
        _ ≤ 2 ^ 53 * 2 ^ spacing units := Nat.mul_le_mul_right _ fits
        _ = 2 ^ (53 + spacing units) := (pow_add 2 53 _).symm
  have step := Nat.mul_pos unitsPerOne_pos (Nat.two_pow_pos (spacing units))
  have grid : significand * (unitsPerOne * 2 ^ spacing units) = units * unitsPerOne := by
    conv_rhs => rw [split]
    ring
  have scaled : 2 * (rest * unitsPerOne) < unitsPerOne * 2 ^ spacing units := by
    rw [← Nat.mul_assoc, Nat.mul_comm (2 * rest)]
    exact Nat.mul_lt_mul_of_pos_left small unitsPerOne_pos
  have rounded : Rounding.nearest .toEven ((units + rest) * unitsPerOne)
      (unitsPerOne * 2 ^ spacing units) = significand := by
    rw [Nat.add_mul]
    exact Rounding.nearest_eq_of_lt_half step (by omega) (by omega) .toEven
  unfold nearest
  dsimp only
  rw [Nat.mul_div_cancel _ unitsPerOne_pos, same, Nat.pow_eq, rounded, ← split]

/-- Numbers are the same where their units are. -/
theorem ofUnits_inj {first second : Nat} : ofUnits first = ofUnits second ↔ first = second := by
  unfold ofUnits
  rw [Binary64.finite.injEq]
  exact and_iff_right rfl

/-- A fraction of one with a power of two below it is a power of two of units. -/
theorem exists_two_pow_mul {places : Nat} (fine : places ≤ unitExponent) :
    ∃ exponent, exponent + places = unitExponent ∧ 2 ^ exponent * 2 ^ places = unitsPerOne := by
  refine ⟨unitExponent - places, Nat.sub_add_cancel fine, ?_⟩
  rw [← pow_add, Nat.sub_add_cancel fine, unitsPerOne_eq]

/-- The number that so many units are. -/
def ones (units : Nat) : ℚ := units / unitsPerOne

/-- A number has units to be measured in. -/
theorem cast_unitsPerOne_pos : (0 : ℚ) < unitsPerOne := Nat.cast_pos.mpr unitsPerOne_pos

/-- Numbers are ordered as their units are. -/
theorem ones_lt_ones_iff {first second : Nat} : ones first < ones second ↔ first < second := by
  unfold ones
  rw [div_lt_div_iff_of_pos_right cast_unitsPerOne_pos, Nat.cast_lt]

/-- Numbers are half away from their whole ones at most, -/
theorem abs_round_sub_le (tie : Rounding.Tie) (units : Nat) :
    |(Rounding.nearest tie units unitsPerOne : ℚ) - ones units| ≤ 1 / 2 := by
  have one := cast_unitsPerOne_pos
  have half := Rounding.abs_nearest_sub_le unitsPerOne_pos tie units
  rw [Nat.cast_mul] at half
  rw [ones, ← mul_le_mul_iff_of_pos_right one, ← abs_of_pos one, ← abs_mul, abs_of_pos one, sub_mul,
    div_mul_cancel₀ _ one.ne', div_mul_eq_mul_div, one_mul]
  exact half

/-- and a whole one that is less than half away is the one. -/
theorem round_eq_of_abs_lt {units count : Nat} (near : |ones units - count| < 1 / 2)
    (tie : Rounding.Tie) : Rounding.nearest tie units unitsPerOne = count := by
  have half := abs_le.mp (abs_round_sub_le tie units)
  have away := abs_lt.mp near
  have upper : (Rounding.nearest tie units unitsPerOne : ℚ) < count + 1 := by linarith
  have lower : (count : ℚ) < Rounding.nearest tie units unitsPerOne + 1 := by linarith
  have upper' : Rounding.nearest tie units unitsPerOne < count + 1 := by exact_mod_cast upper
  have lower' : count < Rounding.nearest tie units unitsPerOne + 1 := by exact_mod_cast lower
  omega

/-- The units of one are one. -/
theorem ones_unitsPerOne : ones unitsPerOne = 1 := div_self cast_unitsPerOne_pos.ne'

/-- How far a number is from a quotient, over their common denominator. -/
theorem abs_ones_sub (positive : 0 < den) (units : Nat) :
    |ones units - num / den| = |(units * den : ℚ) - num * unitsPerOne| / (unitsPerOne * den) := by
  have one := cast_unitsPerOne_pos
  have width : (0 : ℚ) < den := Nat.cast_pos.mpr positive
  rw [ones, div_sub_div _ _ one.ne' width.ne', abs_div, abs_of_pos (mul_pos one width),
    mul_comm (unitsPerOne : ℚ) num]

/-- Rounding moves a quotient by half the spacing around it at most. -/
theorem nearest_within_spacing (positive : 0 < den) :
    |ones (nearest num den) - num / den| ≤
      2 ^ spacing (num * unitsPerOne / den) / (2 * unitsPerOne) := by
  have one := cast_unitsPerOne_pos
  have width : (0 : ℚ) < den := Nat.cast_pos.mpr positive
  have half := Rounding.abs_nearest_sub_le
    (Nat.mul_pos positive (Nat.two_pow_pos (spacing (num * unitsPerOne / den)))) .toEven
    (num * unitsPerOne)
  rw [abs_ones_sub positive, div_le_div_iff₀ (mul_pos one width) (mul_pos two_pos one)]
  unfold nearest
  dsimp only
  generalize spacing (num * unitsPerOne / den) = e at half ⊢
  rw [Nat.pow_eq]
  generalize Rounding.nearest .toEven (num * unitsPerOne) (den * 2 ^ e) = count at half ⊢
  push_cast at half ⊢
  calc |(count * 2 ^ e * den : ℚ) - num * unitsPerOne| * (2 * unitsPerOne)
      = |(count * (den * 2 ^ e) : ℚ) - num * unitsPerOne| * (2 * unitsPerOne) := by ring_nf
    _ ≤ den * 2 ^ e / 2 * (2 * unitsPerOne) :=
      mul_le_mul_of_nonneg_right half (mul_pos two_pos one).le
    _ = 2 ^ e * (unitsPerOne * den) := by ring

/-- No multiple of the spacing around a quotient is nearer to it than the nearest number. -/
theorem abs_nearest_sub_le_of_multiple (positive : 0 < den) (count : Nat) :
    |ones (nearest num den) - num / den| ≤
      |ones (count * 2 ^ spacing (num * unitsPerOne / den)) - num / den| := by
  have width : (0 : ℚ) < den := Nat.cast_pos.mpr positive
  have closest := Rounding.abs_nearest_sub_le_of_count
    (Nat.mul_pos positive (Nat.two_pow_pos (spacing (num * unitsPerOne / den)))) .toEven
    (num * unitsPerOne) count
  rw [abs_ones_sub positive, abs_ones_sub positive]
  refine div_le_div_of_nonneg_right ?_ (mul_pos cast_unitsPerOne_pos width).le
  unfold nearest
  dsimp only
  rw [Nat.pow_eq]
  push_cast at closest ⊢
  rwa [mul_assoc, mul_comm _ (den : ℚ), mul_assoc (count : ℚ), mul_comm _ (den : ℚ)]

/-- A number of the format lies on a spacing, or it does not exceed the least number of 53 bits
above that. -/
theorem Representable.multiple_or_le {units : Nat} (word : Representable units) (e : Nat) :
    (∃ count, units = count * 2 ^ e) ∨ e ≠ 0 ∧ units ≤ 2 ^ (52 + e) := by
  obtain ⟨significand, exponent, fits, -, rfl⟩ := word
  rcases Nat.lt_or_ge exponent e with fine | coarse
  · refine .inr ⟨Nat.ne_of_gt (Nat.zero_lt_of_lt fine), ?_⟩
    calc significand * 2 ^ exponent ≤ 2 ^ 53 * 2 ^ exponent := Nat.mul_le_mul_right _ fits.le
      _ = 2 ^ (53 + exponent) := (pow_add 2 53 exponent).symm
      _ ≤ 2 ^ (52 + e) := Nat.pow_le_pow_right Nat.zero_lt_two (by omega)
  · refine .inl ⟨significand * 2 ^ (exponent - e), ?_⟩
    rw [mul_assoc, ← pow_add, Nat.sub_add_cancel coarse]

/-- Of two numbers that do not exceed a quotient the larger one is nearer. -/
theorem abs_ones_sub_le_of_le (positive : 0 < den) {low high : Nat} (order : low ≤ high)
    (inside : high * den ≤ num * unitsPerOne) :
    |ones high - num / den| ≤ |ones low - num / den| := by
  have one := cast_unitsPerOne_pos
  have width : (0 : ℚ) < den := Nat.cast_pos.mpr positive
  have high_le : ones high ≤ num / den := by
    rw [ones, div_le_div_iff₀ one width]
    exact_mod_cast inside
  have low_le : ones low ≤ ones high :=
    div_le_div_of_nonneg_right (Nat.cast_le.mpr order) one.le
  rw [abs_of_nonpos (sub_nonpos.mpr high_le), abs_of_nonpos (sub_nonpos.mpr (low_le.trans high_le))]
  linarith

/-- No number of the format is nearer to a quotient than the nearest one. -/
theorem abs_nearest_sub_le_of_representable (positive : 0 < den) {units : Nat}
    (word : Representable units) :
    |ones (nearest num den) - num / den| ≤ |ones units - num / den| := by
  rcases word.multiple_or_le (spacing (num * unitsPerOne / den)) with ⟨count, rfl⟩ | ⟨wide, below⟩
  · exact abs_nearest_sub_le_of_multiple positive count
  · -- The least number of 53 bits lies between, on the spacing and not above the quotient.
    have least : |ones (nearest num den) - num / den| ≤
        |ones (2 ^ (52 + spacing (num * unitsPerOne / den))) - num / den| := by
      rw [pow_add]
      exact abs_nearest_sub_le_of_multiple positive (2 ^ 52)
    refine least.trans (abs_ones_sub_le_of_le positive below ?_)
    exact (Nat.mul_le_mul_right den (two_pow_spacing_le wide)).trans (Nat.div_mul_le_self _ den)

/-- The spacing around a quotient that is less than a power of two. -/
theorem spacing_le_of_lt (positive : 0 < den) (h : num < 2 ^ bound * den) :
    spacing (num * unitsPerOne / den) ≤ bound + 1021 := by
  by_cases wide : spacing (num * unitsPerOne / den) = 0
  · omega
  · have units : num * unitsPerOne / den < 2 ^ (bound + unitExponent) := by
      apply (Nat.div_lt_iff_lt_mul positive).mpr
      calc num * unitsPerOne < 2 ^ bound * den * unitsPerOne :=
            Nat.mul_lt_mul_of_pos_right h unitsPerOne_pos
        _ = 2 ^ (bound + unitExponent) * den := by rw [unitsPerOne_eq, pow_add]; ring
    have exponent :=
      (Nat.pow_lt_pow_iff_right Nat.one_lt_two).mp ((two_pow_spacing_le wide).trans_lt units)
    unfold unitExponent at exponent
    omega

/-- Rounding moves a quotient below `2 ^ bound` by no more than `2 ^ (bound - 54)`. -/
theorem abs_nearest_sub_le (positive : 0 < den) (h : num < 2 ^ bound * den) :
    |ones (nearest num den) - num / den| ≤ 2 ^ bound / 2 ^ 54 := by
  have units : (unitsPerOne : ℚ) = 2 ^ unitExponent := by
    rw [unitsPerOne_eq, Nat.cast_pow, Nat.cast_ofNat]
  have exponents : bound + 1021 + 54 = bound + (unitExponent + 1) := by
    unfold unitExponent
    omega
  refine (nearest_within_spacing positive).trans ?_
  rw [div_le_div_iff₀ (mul_pos two_pos cast_unitsPerOne_pos) (by positivity)]
  calc (2 : ℚ) ^ spacing (num * unitsPerOne / den) * 2 ^ 54
      ≤ 2 ^ (bound + 1021) * 2 ^ 54 := by
        gcongr
        · exact one_le_two
        · exact spacing_le_of_lt positive h
    _ = 2 ^ bound * 2 ^ (unitExponent + 1) := by rw [← pow_add, ← pow_add, exponents]
    _ = 2 ^ bound * (2 * unitsPerOne) := by rw [units, pow_succ']

/-- What it means that so many units are the number of the format for a quotient: they belong to it,
and no others are nearer. -/
structure IsNearest (units num den : Nat) : Prop where
  /-- The units belong to the format. -/
  representable : Representable units
  /-- Any others of the format are at least as far away. -/
  closest : ∀ other, Representable other → |ones units - num / den| ≤ |ones other - num / den|

/-- Rounding leads to a nearest number, unless the quotient is out of the range of the format. -/
theorem isNearest_nearest (positive : 0 < den) (h : num ≤ 2 ^ bound * den)
    (inside : bound ≤ 1022) : IsNearest (nearest num den) num den :=
  ⟨representable_nearest positive h inside, fun _ => abs_nearest_sub_le_of_representable positive⟩

/-- The steps of a grid that is coarser than the format stay apart. -/
theorem nearest_lt_nearest (positive : 0 < den) (h : num < num') (inside : num' < 2 ^ bound * den)
    (coarse : 2 ^ bound * den < 2 ^ 53) : nearest num den < nearest num' den := by
  have low := abs_nearest_sub_le positive (h.trans inside)
  have high := abs_nearest_sub_le positive inside
  rw [← ones_lt_ones_iff]
  have width : (0 : ℚ) < den := Nat.cast_pos.mpr positive
  have apart : (num : ℚ) / den + 1 / den ≤ num' / den := by
    rw [← add_div]
    gcongr
    exact_mod_cast h
  have errors : (2 : ℚ) ^ bound / 2 ^ 54 + 2 ^ bound / 2 ^ 54 < 1 / den := by
    have coarse' : (2 : ℚ) ^ bound * den < 2 ^ 53 := by exact_mod_cast coarse
    rw [← add_div, div_lt_div_iff₀ (by positivity) width]
    linarith
  rw [abs_le] at low high
  linarith [low.2, high.1]

end Binary64

end ServiceProbe
