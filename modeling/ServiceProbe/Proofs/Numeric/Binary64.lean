import Mathlib.Tactic.Ring
import ServiceProbe.Numeric.Binary64

/-!
# Numbers of the binary64 format

Which numbers of units belong to the format, and that rounding to the nearest one leads there. A
finite number is a significand of at most 53 bits on a spacing that its exponent field can name,
and its own 64-bit word stands for it. Rounding never crosses a number that needs none, which
bounds it from both sides.
-/

namespace ServiceProbe

namespace Rounding

/-- Rounding does not fall below a whole number. -/
theorem le_nearest {den num count : Nat} (positive : 0 < den) (h : count * den ≤ num)
    (tie : Tie) : count ≤ nearest tie num den := by
  have floor : count ≤ num / den := (Nat.le_div_iff_mul_le positive).mpr h
  unfold nearest
  split <;> omega

/-- A quotient that goes up leaves a remainder. -/
theorem remainder_pos_of_goesUp {tie : Tie} {q r den : Nat} (positive : 0 < den)
    (up : goesUp tie q r den = true) : 0 < r := by
  unfold goesUp at up
  cases order : compare (2 * r) den with
  | lt =>
    rw [order] at up
    cases up
  | eq =>
    have half := Nat.compare_eq_eq.mp order
    omega
  | gt =>
    have more := Nat.compare_eq_gt.mp order
    omega

/-- Rounding does not rise above a whole number. -/
theorem nearest_le {den num count : Nat} (positive : 0 < den) (h : num ≤ count * den)
    (tie : Tie) : nearest tie num den ≤ count := by
  have split := Nat.div_add_mod num den
  unfold nearest
  split
  · rename_i up
    have rest := remainder_pos_of_goesUp positive up
    have below : den * (num / den) < count * den := by omega
    rw [Nat.mul_comm] at below
    exact Nat.lt_of_mul_lt_mul_right below
  · have floor : num / den * den ≤ count * den := (Nat.div_mul_le_self num den).trans h
    exact Nat.le_of_mul_le_mul_right floor positive

end Rounding

namespace Binary64

/-- The exponent of the units in one. -/
def unitExponent : Nat := 1074

/-- One is a power of two of units. -/
theorem unitsPerOne_eq : unitsPerOne = 2 ^ unitExponent := by decide +kernel

/-- A unit is no more than one. -/
theorem unitsPerOne_pos : 0 < unitsPerOne := by
  rw [unitsPerOne_eq]
  exact Nat.two_pow_pos _

/-- The units of the finite numbers of the format. -/
def Representable (units : Nat) : Prop :=
  ∃ significand exponent, significand < 2 ^ 53 ∧ exponent ≤ 2045 ∧
    units = significand * 2 ^ exponent

/-- The larger of two numbers of the format is one of them. -/
theorem Representable.max {first second : Nat} (hf : Representable first)
    (hs : Representable second) : Representable (max first second) := by
  rcases Nat.le_total first second with h | h
  · rwa [Nat.max_eq_right h]
  · rwa [Nat.max_eq_left h]

/-- A number has at most 53 bits above its spacing. -/
theorem lt_two_pow_spacing (units : Nat) : units < 2 ^ (53 + spacing units) := by
  have bits : units < 2 ^ (units.log2 + 1) := Nat.lt_log2_self
  have exponent : units.log2 + 1 ≤ 53 + spacing units := by
    unfold spacing
    omega
  exact bits.trans_le (Nat.pow_le_pow_right (by decide) exponent)

/-- A number that is not the smallest of its spacing has just 53 bits above it. -/
theorem two_pow_spacing_le {units : Nat} (wide : spacing units ≠ 0) :
    2 ^ (52 + spacing units) ≤ units := by
  have log : 52 + spacing units = units.log2 := by
    unfold spacing at wide ⊢
    omega
  have some : units ≠ 0 := by
    rintro rfl
    exact wide rfl
  rw [log]
  exact Nat.log2_self_le some

/-- A bound on a number bounds its spacing. -/
theorem spacing_le {units bound : Nat} (h : units ≤ 2 ^ bound) : spacing units ≤ bound - 52 := by
  by_cases wide : spacing units = 0
  · omega
  · have low : 2 ^ (52 + spacing units) ≤ 2 ^ bound := (two_pow_spacing_le wide).trans h
    have exponent := (Nat.pow_le_pow_iff_right (by decide)).mp low
    omega

section Nearest

variable {num den bound : Nat}

/-- The whole units of a quotient below a power of two. -/
theorem units_le (h : num ≤ 2 ^ bound * den) :
    num * unitsPerOne / den ≤ 2 ^ (bound + unitExponent) := by
  apply Nat.div_le_of_le_mul
  calc num * unitsPerOne ≤ 2 ^ bound * den * unitsPerOne := Nat.mul_le_mul_right _ h
    _ = den * 2 ^ (bound + unitExponent) := by rw [unitsPerOne_eq, pow_add]; ring

/-- The exponent of the spacing around such a quotient. -/
theorem spacing_units_le (h : num ≤ 2 ^ bound * den) :
    spacing (num * unitsPerOne / den) ≤ bound + 1022 := by
  have exponent := spacing_le (units_le h)
  unfold unitExponent at exponent
  omega

/-- The nearest number to a quotient does not exceed a power of two that the quotient does not
exceed. -/
theorem nearest_le_two_pow (positive : 0 < den) (h : num ≤ 2 ^ bound * den) :
    nearest num den ≤ 2 ^ bound * unitsPerOne := by
  have exponent : spacing (num * unitsPerOne / den) ≤ bound + unitExponent := by
    have low := spacing_units_le h
    unfold unitExponent
    omega
  unfold nearest
  dsimp only
  generalize spacing (num * unitsPerOne / den) = e at exponent
  have grid : 2 ^ bound * unitsPerOne = 2 ^ (bound + unitExponent - e) * 2 ^ e := by
    rw [unitsPerOne_eq, ← pow_add, ← pow_add, Nat.sub_add_cancel exponent]
  rw [Nat.pow_eq, grid]
  apply Nat.mul_le_mul_right
  apply Rounding.nearest_le (Nat.mul_pos positive (Nat.two_pow_pos e))
  calc num * unitsPerOne ≤ 2 ^ bound * den * unitsPerOne := Nat.mul_le_mul_right _ h
    _ = den * (2 ^ bound * unitsPerOne) := by ring
    _ = 2 ^ (bound + unitExponent - e) * (den * 2 ^ e) := by rw [grid]; ring

/-- The nearest number to a quotient has a significand of 53 bits, or of one more bit that is all
alone. -/
theorem exists_significand_nearest (num : Nat) (positive : 0 < den) :
    ∃ significand ≤ 2 ^ 53,
      nearest num den = significand * 2 ^ spacing (num * unitsPerOne / den) := by
  have below := lt_two_pow_spacing (num * unitsPerOne / den)
  have whole := Nat.lt_mul_div_succ (num * unitsPerOne) positive
  unfold nearest
  dsimp only
  generalize num * unitsPerOne / den = units at below whole
  refine ⟨_, ?_, by rw [Nat.pow_eq]⟩
  apply Rounding.nearest_le (Nat.mul_pos positive (Nat.two_pow_pos _))
  calc num * unitsPerOne ≤ den * (units + 1) := whole.le
    _ ≤ den * 2 ^ (53 + spacing units) := Nat.mul_le_mul_left _ below
    _ = 2 ^ 53 * (den * 2 ^ spacing units) := by rw [pow_add]; ring

/-- Rounding leads to a number of the format, unless the quotient is out of its range. -/
theorem representable_nearest (positive : 0 < den) (h : num ≤ 2 ^ bound * den)
    (inside : bound ≤ 1022) : Representable (nearest num den) := by
  have exponent := spacing_units_le h
  obtain ⟨significand, le, eq⟩ := exists_significand_nearest num positive
  rcases Nat.lt_or_eq_of_le le with lt | carry
  · exact ⟨significand, _, lt, by omega, eq⟩
  · -- A carry into the 54th bit leaves a power of two, which the next exponent can name.
    refine ⟨2 ^ 52, spacing (num * unitsPerOne / den) + 1, by decide, by omega, ?_⟩
    rw [eq, carry, pow_succ]
    ring

end Nearest

section Words

variable {units : Nat}

/-- A number of the format lies on its spacing, with a significand that fills its bits wherever the
spacing is not the smallest. -/
theorem Representable.on_spacing (h : Representable units) :
    ∃ significand < 2 ^ 53, units = significand * 2 ^ spacing units ∧ spacing units ≤ 2045 ∧
      (spacing units = 0 ∨ 2 ^ 52 ≤ significand) := by
  obtain ⟨digits, exponent, fits, range, eq⟩ := h
  have below := lt_two_pow_spacing units
  by_cases wide : spacing units = 0
  · rw [wide] at below ⊢
    exact ⟨units, below, by omega, by omega, .inl rfl⟩
  · have low := two_pow_spacing_le wide
    generalize spacing units = step at below low ⊢
    have high : units < 2 ^ (53 + exponent) := by
      rw [eq, pow_add]
      exact Nat.mul_lt_mul_of_pos_right fits (Nat.two_pow_pos exponent)
    have order := (Nat.pow_lt_pow_iff_right (by decide)).mp (low.trans_lt high)
    have split : units = digits * 2 ^ (exponent - step) * 2 ^ step := by
      rw [mul_assoc, ← pow_add, Nat.sub_add_cancel (by omega), ← eq]
    rw [split, pow_add] at low below
    have full := Nat.le_of_mul_le_mul_right low (Nat.two_pow_pos step)
    exact ⟨_, Nat.lt_of_mul_lt_mul_right below, split, by omega, .inr full⟩

/-- A significand and an exponent stand in a word as its two fields. -/
theorem ofBits_fields {significand exponent : Nat} (fits : significand < 2 ^ 53)
    (range : exponent ≤ 2045) (full : exponent = 0 ∨ 2 ^ 52 ≤ significand) :
    ofBits (exponent * 2 ^ 52 + significand) = ofUnits (significand * 2 ^ exponent) := by
  have sign : (exponent * 2 ^ 52 + significand) / 2 ^ 63 % 2 = 0 := by omega
  simp only [ofBits, Nat.pow_eq, sign]
  by_cases low : significand < 2 ^ 52
  · have least : exponent = 0 := by omega
    subst least
    have field : (0 * 2 ^ 52 + significand) / 2 ^ 52 % 2 ^ 11 = 0 := by omega
    have fraction : (0 * 2 ^ 52 + significand) % 2 ^ 52 = significand := by omega
    rw [field, fraction]
    simp [ofUnits]
  · have field : (exponent * 2 ^ 52 + significand) / 2 ^ 52 % 2 ^ 11 = exponent + 1 := by omega
    have fraction : 2 ^ 52 + (exponent * 2 ^ 52 + significand) % 2 ^ 52 = significand := by omega
    have finite : exponent + 1 ≠ 2 ^ 11 - 1 := by omega
    rw [field, fraction, if_neg finite, if_neg (Nat.succ_ne_zero exponent), Nat.add_sub_cancel]
    simp [ofUnits]

/-- Every number of the format is what its own word stands for. -/
theorem ofBits_wordOfUnits (h : Representable units) :
    ofBits (wordOfUnits units) = ofUnits units ∧ wordOfUnits units < 2 ^ 63 := by
  obtain ⟨significand, fits, split, range, full⟩ := h.on_spacing
  have top : units / 2 ^ spacing units = significand :=
    Nat.div_eq_of_eq_mul_left (Nat.two_pow_pos _) split
  have word : wordOfUnits units = spacing units * 2 ^ 52 + significand := by
    rw [wordOfUnits, Nat.pow_eq, Nat.pow_eq, top]
  rw [word]
  constructor
  · rw [ofBits_fields fits range full, ← split]
  · omega

end Words

end Binary64

end ServiceProbe
