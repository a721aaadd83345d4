import ServiceProbe.Numeric.Binary64
import ServiceProbe.Proofs.Text.Numeral

/-!
# Decimal texts with fixed places

What a text with a fixed number of decimals shows. The digits before and behind the point spell
a whole number of the least decimal steps, and since the number of places is known a text shows
no other number. Of the texts that show a number, one does so without padding before the point, and
that one is written for it.
-/

namespace ServiceProbe

namespace Decimal

section Padded

variable {width n : Nat}

/-- A number that fits is padded to just the width. -/
theorem length_padded (positive : 0 < width) (fits : n < Nat.pow 10 width) :
    (padded width n).length = width := by
  have short : (digits n).length ≤ width :=
    (Nat.length_toDigits_le_iff (by decide) positive).mpr fits
  simp only [padded, List.length_append, List.length_replicate]
  omega

/-- Padding adds digits only. -/
theorem isDigit_of_mem_padded {c : Char} (h : c ∈ padded width n) : isDigit c.toNat = true := by
  rcases List.mem_append.mp h with zero | digit
  · rw [List.eq_of_mem_replicate zero]
    rfl
  · exact isDigit_of_mem_digits digit

/-- With its padding a number still is a numeral. -/
theorem numeral_padded : Numeral ((padded width n).map Char.toNat) n := by
  rw [padded, List.map_append, List.map_replicate]
  exact (numeral_digits n).zeros_append _

/-- Padding leaves the number as it is. -/
theorem ofDigitChars_padded : Nat.ofDigitChars 10 (padded width n) 0 = n := by
  rw [padded, Nat.ofDigitChars_append, Nat.ofDigitChars_replicate_zero, Nat.mul_zero]
  exact Nat.ofDigitChars_ten_toDigits

end Padded

end Decimal

namespace Binary64

/-- A text that shows `count` steps of `10 ^ -places`: a run of digits, a point and a run of just
`places` digits, which spell the number together. -/
def Shows (places count : Nat) (text : String) : Prop :=
  ∃ whole fraction : List Char, text = String.ofList (whole ++ '.' :: fraction) ∧ whole ≠ [] ∧
    fraction.length = places ∧
    (∀ c ∈ whole ++ fraction, Decimal.isDigit c.toNat = true) ∧
    Decimal.value ((whole ++ fraction).map Char.toNat) = count

/-- A text shows one number only. -/
theorem Shows.unique {places first second : Nat} {text : String}
    (hf : Shows places first text) (hs : Shows places second text) : first = second := by
  obtain ⟨whole, fraction, rfl, -, len, -, value⟩ := hf
  obtain ⟨whole', fraction', same, -, len', -, value'⟩ := hs
  have chars : whole ++ '.' :: fraction = whole' ++ '.' :: fraction' := String.ofList_inj.mp same
  have behind : ('.' :: fraction).length = ('.' :: fraction').length := by
    rw [List.length_cons, List.length_cons, len, len']
  obtain ⟨rfl, pointed⟩ := List.append_inj' chars behind
  cases pointed
  rw [← value, ← value']

/-- The decimal text of a number of steps shows that number. -/
theorem shows_decimalText {places : Nat} (positive : 0 < places) (count : Nat) :
    Shows places count (String.ofList (decimalText places count)) := by
  have fits : count % Nat.pow 10 places < Nat.pow 10 places :=
    Nat.mod_lt _ (Nat.pow_pos (by decide))
  have len := Decimal.length_padded positive fits
  refine ⟨Decimal.digits (count / Nat.pow 10 places), Decimal.padded places (count % Nat.pow 10 places), rfl,
    Nat.toDigits_ne_nil, len, ?_, ?_⟩
  · intro c h
    rcases List.mem_append.mp h with hw | hf
    · exact Decimal.isDigit_of_mem_digits hw
    · exact Decimal.isDigit_of_mem_padded hf
  · rw [Decimal.value_map_toNat, Nat.ofDigitChars_append, Nat.ofDigitChars_eq_ofDigitChars_zero,
      Decimal.ofDigitChars_padded, len, Decimal.digits, Nat.ofDigitChars_ten_toDigits]
    exact Nat.div_add_mod count (Nat.pow 10 places)

/-- A text that is written for `count` steps of `10 ^ -places`: a run of digits without padding that
spells the whole ones, a point, and a run of just `places` digits that spells the others. -/
def Writes (places count : Nat) (text : String) : Prop :=
  ∃ whole fraction : List Char, text = String.ofList (whole ++ '.' :: fraction) ∧
    Decimal.Numeral (whole.map Char.toNat) (count / Nat.pow 10 places) ∧
    Decimal.Unpadded (whole.map Char.toNat) ∧
    Decimal.Numeral (fraction.map Char.toNat) (count % Nat.pow 10 places) ∧
    fraction.length = places

/-- Just one text is written for a number of steps, its decimal text. -/
theorem writes_iff {places count : Nat} (positive : 0 < places) {text : String} :
    Writes places count text ↔ text = String.ofList (decimalText places count) := by
  have fits : count % Nat.pow 10 places < Nat.pow 10 places :=
    Nat.mod_lt _ (Nat.pow_pos (by decide))
  have width := Decimal.length_padded positive fits
  have codes : Function.Injective (List.map Char.toNat) :=
    List.map_injective_iff.mpr fun _ _ => Char.toNat_inj.mp
  constructor
  · rintro ⟨whole, fraction, rfl, spelled, unpadded, spelled', len⟩
    have lengths : (fraction.map Char.toNat).length =
        ((Decimal.padded places (count % Nat.pow 10 places)).map Char.toNat).length := by
      rw [List.length_map, List.length_map, len, width]
    have before := codes (spelled.eq_digits unpadded)
    have behind := codes (spelled'.eq_of_length_eq Decimal.numeral_padded lengths rfl)
    rw [before, behind, decimalText]
  · rintro rfl
    exact ⟨_, _, rfl, Decimal.numeral_digits _, Decimal.unpadded_digits _, Decimal.numeral_padded,
      width⟩

/-- The text of a nonnegative number is that of the number of steps nearest to it. -/
theorem fixed_ofUnits (places units : Nat) :
    (ofUnits units).fixed places = String.ofList (decimalText places
      (Rounding.nearest .toEven (units * Nat.pow 10 places) unitsPerOne)) := rfl

/-- So it shows this number of steps. -/
theorem shows_fixed {places : Nat} (positive : 0 < places) (units : Nat) :
    Shows places (Rounding.nearest .toEven (units * Nat.pow 10 places) unitsPerOne)
      ((ofUnits units).fixed places) := by
  rw [fixed_ofUnits]
  exact shows_decimalText positive _

end Binary64

end ServiceProbe
