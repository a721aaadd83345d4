import ServiceProbe.Port

/-!
# Readings of a port token

A port token is read in two ways: as a numeral and nothing else, or as a numeral or the name of
a well-known service. Where the first reading finds a port the second finds the same one. Where
it finds none only a name is left, for a token of digits that is too large is no name either.
-/

namespace ServiceProbe.Port

/-- Folding the case of a digit leaves it as it is. -/
theorem toLower_of_isDigit {c : Char} (digit : Decimal.isDigit c.toNat = true) :
    c.toLower = c := by
  have small : c.toNat ≤ 57 := by
    simp only [Decimal.isDigit, Bool.and_eq_true, decide_eq_true_eq] at digit
    exact digit.2
  have capital : ¬ (c.val ≥ 'A'.val ∧ c.val ≤ 'Z'.val) := by
    intro h
    have large : 65 ≤ c.toNat := UInt32.le_iff_toNat_le.mp h.1
    omega
  exact dif_neg capital

/-- Every well-known name has a character that is no digit. -/
theorem not_digits_of_mem_wellKnown {entry : String × Port} (h : entry ∈ wellKnown) :
    ¬ ∀ c ∈ foldCase entry.1, Decimal.isDigit c.toNat = true := by
  have table : wellKnown.all (fun entry =>
      !(foldCase entry.1).all fun c => Decimal.isDigit c.toNat) = true := by
    decide
  have named := List.all_eq_true.mp table entry h
  intro digits
  rw [List.all_eq_true.mpr digits] at named
  cases named

/-- A service is found by its name, however the case of that is written. -/
theorem ofService?_eq_some_iff {token : String} {port : Port} :
    ofService? token = some port ↔
      ∃ name, (name, port) ∈ wellKnown ∧ foldCase name = foldCase token := by
  unfold ofService?
  constructor
  · intro h
    obtain ⟨⟨name, _⟩, found, rfl⟩ := Option.map_eq_some_iff.mp h
    have named := List.find?_some found
    exact ⟨name, List.mem_of_find?_eq_some found, eq_of_beq named⟩
  · rintro ⟨name, listed, folded⟩
    rw [← folded]
    -- No two names of the table fold to the same, so each finds its own entry.
    simp only [wellKnown, List.mem_cons, Prod.mk.injEq, List.not_mem_nil, or_false] at listed
    rcases listed with ⟨rfl, rfl⟩ | ⟨rfl, rfl⟩ | ⟨rfl, rfl⟩ | ⟨rfl, rfl⟩ | ⟨rfl, rfl⟩ |
      ⟨rfl, rfl⟩ | ⟨rfl, rfl⟩ <;> decide

/-- A token of digits names no service. -/
theorem ofService?_of_isNumeral {token : String}
    (numeral : Decimal.isNumeral (codes token) = true) : ofService? token = none := by
  have digits : ∀ c ∈ token.toList, Decimal.isDigit c.toNat = true := by
    intro c hc
    simp only [Decimal.isNumeral, Bool.and_eq_true, List.all_eq_true] at numeral
    exact numeral.2 c.toNat (List.mem_map_of_mem hc)
  cases found : ofService? token with
  | none => rfl
  | some port =>
    obtain ⟨name, listed, folded⟩ := ofService?_eq_some_iff.mp found
    refine absurd ?_ (not_digits_of_mem_wellKnown listed)
    intro c hc
    rw [folded] at hc
    obtain ⟨d, hd, rfl⟩ := List.mem_map.mp hc
    rw [toLower_of_isDigit (digits d hd)]
    exact digits d hd

/-- Only a numeral spells a port without the table. -/
theorem isNumeral_of_ofNumeral? {token : String} {port : Port}
    (h : ofNumeral? token = some port) : Decimal.isNumeral (codes token) = true := by
  unfold ofNumeral? Decimal.below? at h
  split at h
  · assumption
  · cases h

/-- A numeral has at least one digit. -/
theorem ne_empty_of_ofNumeral? {token : String} {port : Port}
    (h : ofNumeral? token = some port) : token ≠ "" := by
  rintro rfl
  have numeral := isNumeral_of_ofNumeral? h
  cases numeral

/-- A numeral that fits stands for its own number. -/
theorem ofToken?_of_ofNumeral? {token : String} {port : Port}
    (h : ofNumeral? token = some port) : ofToken? token = some port := by
  rw [ofToken?, if_pos (isNumeral_of_ofNumeral? h), h]

/-- A token that is no numeral, or too large a one, can only stand for the port of a name. -/
theorem ofToken?_of_ofNumeral?_eq_none {token : String} (h : ofNumeral? token = none) :
    ofToken? token = ofService? token := by
  unfold ofToken?
  split
  · rename_i numeral
    rw [h, ofService?_of_isNumeral numeral]
  · rfl

end ServiceProbe.Port
