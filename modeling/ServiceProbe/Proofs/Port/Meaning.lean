import Mathlib.Data.List.Forall2
import ServiceProbe.Proofs.Port.Tokens
import ServiceProbe.Proofs.Text.Numeral

/-!
# What port tokens stand for

A port token is a numeral of a port or, but for the case of its letters, a name of the table. No
token is both, so neither the order in which the two are tried nor the size of a numeral lets a
name take the place of a number. Both readings agree on numerals, and neither takes anything but
ASCII letters and digits.
-/

namespace ServiceProbe.Port

/-- A capital letter of ASCII and its small letter. -/
def IsCapitalOf (c d : Char) : Prop := 65 ≤ c.toNat ∧ c.toNat ≤ 90 ∧ d.toNat = c.toNat + 32

/-- Two characters that are the same but for the case of a letter. -/
def SameLetter (c d : Char) : Prop := c = d ∨ IsCapitalOf c d ∨ IsCapitalOf d c

/-- Two texts that are the same but for the case of their letters. -/
def SameButCase (first second : String) : Prop :=
  List.Forall₂ SameLetter first.toList second.toList

/-- A token stands for a port: it is a numeral of it or, but for the case, the name that the table has
for it. -/
def StandsFor (token : String) (port : Port) : Prop :=
  Decimal.Numeral (codes token) port.val ∨
    ∃ name, (name, port) ∈ wellKnown ∧ SameButCase name token

/-- Folding adds the distance between the cases to the code of a capital. -/
theorem toNat_toLower (c : Char) :
    c.toLower.toNat = if 65 ≤ c.toNat ∧ c.toNat ≤ 90 then c.toNat + 32 else c.toNat := by
  have code : c.toNat = c.val.toNat := rfl
  have capital : (c.val ≥ 'A'.val ∧ c.val ≤ 'Z'.val) ↔ 65 ≤ c.toNat ∧ c.toNat ≤ 90 := by
    simp only [ge_iff_le, UInt32.le_iff_toNat_le]
    rfl
  by_cases h : c.val ≥ 'A'.val ∧ c.val ≤ 'Z'.val
  · have range := capital.mp h
    have folded : c.toLower.val = c.val + ('a'.val - 'A'.val) := congrArg Char.val (dif_pos h)
    have distance : ('a'.val - 'A'.val).toNat = 32 := rfl
    rw [if_pos range, ← Char.toNat_val, folded, UInt32.toNat_add, distance,
      Nat.mod_eq_of_lt (by omega)]
    rfl
  · have kept : c.toLower = c := dif_neg h
    rw [if_neg (mt capital.mpr h), kept]

/-- Two characters fold to the same if and only if they are the same but for their case. -/
theorem toLower_eq_toLower_iff {c d : Char} : c.toLower = d.toLower ↔ SameLetter c d := by
  rw [← Char.toNat_inj, toNat_toLower, toNat_toLower, SameLetter, IsCapitalOf, IsCapitalOf,
    ← Char.toNat_inj]
  split <;> split <;> omega

/-- Two texts fold to the same if and only if they are the same but for their case. -/
theorem foldCase_eq_iff {first second : String} :
    foldCase first = foldCase second ↔ SameButCase first second := by
  rw [foldCase, foldCase, ← List.forall₂_eq_eq_eq, List.forall₂_map_left_iff,
    List.forall₂_map_right_iff, SameButCase]
  simp only [toLower_eq_toLower_iff]

/-- The case of texts is the same both ways. -/
theorem SameButCase.symm {first second : String} (h : SameButCase first second) :
    SameButCase second first :=
  foldCase_eq_iff.mp (foldCase_eq_iff.mpr h).symm

/-- A digit has no case. -/
theorem SameLetter.eq_of_isDigit {c d : Char} (digit : Decimal.isDigit c.toNat = true)
    (h : SameLetter c d) : c = d := by
  simp only [Decimal.isDigit, Bool.and_eq_true, decide_eq_true_eq] at digit
  rcases h with same | ⟨low, _, _⟩ | ⟨low, _, code⟩
  · exact same
  · omega
  · omega

/-- A numeral has no case. -/
theorem SameButCase.eq_of_isNumeral {first second : String} (h : SameButCase first second)
    (numeral : Decimal.isNumeral (codes first) = true) : first = second := by
  simp only [Decimal.isNumeral, codes, List.all_map, Bool.and_eq_true, List.all_eq_true]
    at numeral
  have same : List.Forall₂ Eq first.toList second.toList := by
    apply List.Forall₂.imp _ ((List.forall₂_and_left _ _).mpr ⟨numeral.2, h⟩)
    intro c d both
    exact both.2.eq_of_isDigit both.1
  exact String.toList_inj.mp (List.forall₂_eq_eq_eq ▸ same)

/-- The letters and digits of ASCII by their codes. -/
theorem isAlphanum_iff {c : Char} :
    c.isAlphanum = true ↔ (65 ≤ c.toNat ∧ c.toNat ≤ 90 ∨ 97 ≤ c.toNat ∧ c.toNat ≤ 122) ∨
      48 ≤ c.toNat ∧ c.toNat ≤ 57 := by
  change (decide (c.val ≥ 'A'.val ∧ c.val ≤ 'Z'.val) || (c.val ≥ 'a'.val && c.val ≤ 'z'.val) ||
    (c.val ≥ '0'.val && c.val ≤ '9'.val)) = true ↔ _
  simp only [Bool.or_eq_true, Bool.and_eq_true, decide_eq_true_eq, UInt32.le_iff_toNat_le,
    ge_iff_le]
  rfl

/-- A character that is the same as one of these but for its case is one of these. -/
theorem SameLetter.isAlphanum {c d : Char} (h : SameLetter c d) (plain : c.isAlphanum = true) :
    d.isAlphanum = true := by
  rw [isAlphanum_iff] at plain ⊢
  rcases h with rfl | ⟨_, _, code⟩ | ⟨_, _, code⟩
  · exact plain
  · omega
  · omega

/-- The names of the table are written in letters. -/
theorem isAlphanum_of_mem_wellKnown {entry : String × Port} (listed : entry ∈ wellKnown) :
    ∀ c ∈ entry.1.toList, c.isAlphanum = true := by
  have table : wellKnown.all (fun entry => entry.1.toList.all Char.isAlphanum) = true := by decide
  exact List.all_eq_true.mp (List.all_eq_true.mp table entry listed)

section Token

variable {token : String}

/-- A token is read as a numeral if and only if its characters spell the port. -/
theorem ofNumeral?_eq_some_iff {port : Port} :
    ofNumeral? token = some port ↔ Decimal.Numeral (codes token) port.val :=
  Decimal.below?_eq_some_iff_numeral

/-- A service is found if and only if the token is its name but for the case. -/
theorem ofService?_eq_some_iff_sameButCase {port : Port} :
    ofService? token = some port ↔
      ∃ name, (name, port) ∈ wellKnown ∧ SameButCase name token := by
  simp only [ofService?_eq_some_iff, foldCase_eq_iff]

/-- A token is resolved to a port if and only if it stands for it. -/
theorem ofToken?_eq_some_iff {port : Port} : ofToken? token = some port ↔ StandsFor token port := by
  rw [StandsFor, ← ofNumeral?_eq_some_iff, ← ofService?_eq_some_iff_sameButCase]
  by_cases numeral : Decimal.isNumeral (codes token) = true
  · simp [ofToken?, numeral, ofService?_of_isNumeral numeral]
  · have unread : ofNumeral? token ≠ some port := mt isNumeral_of_ofNumeral? numeral
    simp [ofToken?, numeral, unread]

/-- It is resolved to none if and only if it stands for none. -/
theorem ofToken?_eq_none_iff : ofToken? token = none ↔ ∀ port, ¬ StandsFor token port := by
  simp only [Option.eq_none_iff_forall_ne_some, ne_eq, ofToken?_eq_some_iff]

/-- No token that spells a number is the name of a service. -/
theorem not_sameButCase_of_numeral {n : Nat} (spelled : Decimal.Numeral (codes token) n)
    {name : String} {port : Port} (listed : (name, port) ∈ wellKnown) :
    ¬ SameButCase name token := by
  intro same
  have found : ofService? token = some port :=
    ofService?_eq_some_iff_sameButCase.mpr ⟨name, listed, same⟩
  rw [ofService?_of_isNumeral spelled.value_eq.1] at found
  cases found

/-- A numeral that is too large stands for nothing. -/
theorem ofToken?_of_large {n : Nat} (spelled : Decimal.Numeral (codes token) n)
    (large : 65536 ≤ n) : ofToken? token = none ∧ ofNumeral? token = none := by
  have unread : ofNumeral? token = none := by
    refine Decimal.below?_eq_none_iff_numeral.mpr fun other h => ?_
    rwa [h.unique spelled]
  exact ⟨by rw [ofToken?, if_pos spelled.value_eq.1, unread], unread⟩

/-- Tokens that stand for a port are made of letters and digits. -/
theorem isAlphanum_of_ofToken? {port : Port} (h : ofToken? token = some port) :
    ∀ c ∈ token.toList, c.isAlphanum = true := by
  intro c hc
  rcases ofToken?_eq_some_iff.mp h with spelled | ⟨name, listed, same⟩
  · have digit := spelled.isDigit_of_mem (List.mem_map_of_mem hc)
    simp only [Decimal.isDigit, Bool.and_eq_true, decide_eq_true_eq] at digit
    exact isAlphanum_iff.mpr (.inr digit)
  · -- The folded character stands in the folded name, so it comes from a letter of the name.
    have folded : c.toLower ∈ foldCase name := by
      rw [foldCase_eq_iff.mpr same]
      exact List.mem_map_of_mem hc
    obtain ⟨d, hd, letter⟩ := List.mem_map.mp folded
    exact (toLower_eq_toLower_iff.mp letter).isAlphanum (isAlphanum_of_mem_wellKnown listed d hd)

/-- The case of a token is no part of its meaning. -/
theorem ofToken?_of_sameButCase {other : String} (h : SameButCase token other) :
    ofToken? other = ofToken? token ∧ ofNumeral? other = ofNumeral? token := by
  by_cases numeral : Decimal.isNumeral (codes token) = true
  · rw [h.eq_of_isNumeral numeral]
    exact ⟨rfl, rfl⟩
  · by_cases otherNumeral : Decimal.isNumeral (codes other) = true
    · rw [h.symm.eq_of_isNumeral otherNumeral]
      exact ⟨rfl, rfl⟩
    · have folded : foldCase token = foldCase other := foldCase_eq_iff.mpr h
      constructor
      · simp only [ofToken?, if_neg numeral, if_neg otherNumeral, ofService?, folded]
      · simp only [ofNumeral?, Decimal.below?, if_neg numeral, if_neg otherNumeral]

/-- Zeros in front of a numeral make no difference. -/
theorem ofNumeral?_zeros_append {port : Port} (h : ofNumeral? token = some port) (count : Nat) :
    ofNumeral? (String.ofList (List.replicate count '0') ++ token) = some port := by
  rw [ofNumeral?_eq_some_iff] at h ⊢
  have zeros : codes (String.ofList (List.replicate count '0') ++ token) =
      List.replicate count 48 ++ codes token := by
    simp only [codes, String.toList_append, String.toList_ofList, List.map_append,
      List.map_replicate]
    rfl
  rw [zeros]
  exact h.zeros_append count

end Token

/-- What it means that a token stands for just what it says. -/
structure MeansExactly (token : String) : Prop where
  /-- It stands for a port if and only if it is a numeral of it or, but for the case, the name that
  the table has for it. -/
  resolved : ∀ port : Port, ofToken? token = some port ↔
    Decimal.Numeral (codes token) port.val ∨
      ∃ name, (name, port) ∈ wellKnown ∧ SameButCase name token
  /-- It is read as a numeral if and only if it is one of the port. -/
  read : ∀ port : Port, ofNumeral? token = some port ↔ Decimal.Numeral (codes token) port.val
  /-- A port that is read is the one that the token stands for. -/
  agree : ∀ port, ofNumeral? token = some port → ofToken? token = some port
  /-- Zeros in front are allowed. -/
  zeros : ∀ port, ofNumeral? token = some port → ∀ count,
    ofNumeral? (String.ofList (List.replicate count '0') ++ token) = some port
  /-- A numeral of more than 16 bits stands for no port, -/
  large : ∀ n, Decimal.Numeral (codes token) n → 65536 ≤ n →
    ofToken? token = none ∧ ofNumeral? token = none
  /-- and no numeral is a name. -/
  unnamed : ∀ n name port, Decimal.Numeral (codes token) n → (name, port) ∈ wellKnown →
    ¬ SameButCase name token
  /-- Signs, blanks and whatever else is no letter or digit of ASCII are refused. -/
  plain : ∀ c ∈ token.toList, c.isAlphanum = false →
    ofToken? token = none ∧ ofNumeral? token = none
  /-- The case makes no difference. -/
  folded : ∀ other, SameButCase token other →
    ofToken? other = ofToken? token ∧ ofNumeral? other = ofNumeral? token

/-- Every token stands for just what it says. -/
theorem meansExactly (token : String) : MeansExactly token where
  resolved := fun _ => ofToken?_eq_some_iff
  read := fun _ => ofNumeral?_eq_some_iff
  agree := fun _ => ofToken?_of_ofNumeral?
  zeros := fun _ => ofNumeral?_zeros_append
  large := fun _ => ofToken?_of_large
  unnamed := fun _ _ _ spelled => not_sameButCase_of_numeral spelled
  plain := by
    intro c hc stray
    have unresolved : ofToken? token = none := by
      refine Option.eq_none_iff_forall_ne_some.mpr fun port h => ?_
      rw [isAlphanum_of_ofToken? h c hc] at stray
      cases stray
    refine ⟨unresolved, Option.eq_none_iff_forall_ne_some.mpr fun port h => ?_⟩
    rw [ofToken?_of_ofNumeral? h] at unresolved
    cases unresolved
  folded := fun _ => ofToken?_of_sameButCase

example : ofToken? "65558" = none := by decide

end ServiceProbe.Port
