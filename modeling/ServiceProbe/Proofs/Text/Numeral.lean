import Mathlib.Data.List.Basic
import Mathlib.Data.List.Induction
import ServiceProbe.Text.Decimal

/-!
# Numerals

Which runs of character codes spell which numbers, told digit by digit and apart from the reading
of them. Any run of digits spells a number, and no run spells two. The digits that are written for
a number spell it, and so they do behind zeros; they are the only ones to do so without a zero in
front, and of each length there is one run at most. A bounded reading finds the number that a run
spells, and where this is too large it finds none.
-/

namespace ServiceProbe.Decimal

/-- A run of character codes spells a number in base ten. -/
inductive Numeral : List Nat → Nat → Prop where
  /-- A digit alone spells its own number. -/
  | digit (d : Fin 10) : Numeral [48 + d.val] d.val
  /-- A digit behind a run makes ten times the number of the run, and itself. -/
  | more {run : List Nat} {n : Nat} (spelled : Numeral run n) (d : Fin 10) :
    Numeral (run ++ [48 + d.val]) (10 * n + d.val)

/-- The code of a digit is that of zero and the digit on top. -/
theorem isDigit_iff {code : Nat} : isDigit code = true ↔ ∃ d : Fin 10, code = 48 + d.val := by
  simp only [isDigit, Bool.and_eq_true, decide_eq_true_eq]
  constructor
  · rintro ⟨low, high⟩
    exact ⟨⟨code - 48, by omega⟩, by dsimp only; omega⟩
  · rintro ⟨d, rfl⟩
    omega

/-- The last digit of a run counts once and all before it ten times. -/
theorem value_append_singleton (run : List Nat) (code : Nat) :
    value (run ++ [code]) = 10 * value run + (code - 48) := by
  rw [value, List.foldl_append]
  rfl

/-- A run with a digit behind it is a numeral if all before is one or there is nothing before. -/
theorem isNumeral_append_singleton {run : List Nat} {code : Nat} :
    isNumeral (run ++ [code]) = true ↔ (run = [] ∨ isNumeral run = true) ∧ isDigit code = true := by
  cases run with
  | nil => simp [isNumeral]
  | cons first rest => simp [isNumeral, and_assoc]

/-- What spells a number is a numeral with that value. -/
theorem Numeral.value_eq {run : List Nat} {n : Nat} (spelled : Numeral run n) :
    isNumeral run = true ∧ value run = n := by
  induction spelled with
  | digit d =>
    have alone : isDigit (48 + d.val) = true := isDigit_iff.mpr ⟨d, rfl⟩
    simp [isNumeral, value, alone]
  | more _ d ih =>
    obtain ⟨numeral, number⟩ := ih
    refine ⟨isNumeral_append_singleton.mpr ⟨.inr numeral, isDigit_iff.mpr ⟨d, rfl⟩⟩, ?_⟩
    rw [value_append_singleton, number, Nat.add_sub_cancel_left]

/-- A numeral spells its value. -/
theorem numeral_value {run : List Nat} (numeral : isNumeral run = true) :
    Numeral run (value run) := by
  -- A numeral grows at its end, so the run is taken apart from there.
  induction run using List.reverseRecOn with
  | nil => cases numeral
  | append_singleton run code ih =>
    obtain ⟨before, last⟩ := isNumeral_append_singleton.mp numeral
    obtain ⟨d, rfl⟩ := isDigit_iff.mp last
    rw [value_append_singleton, Nat.add_sub_cancel_left]
    rcases before with rfl | before
    · simpa [value] using Numeral.digit d
    · exact .more (ih before) d

/-- A run spells a number if and only if it is a numeral and the number its value. -/
theorem numeral_iff {run : List Nat} {n : Nat} :
    Numeral run n ↔ isNumeral run = true ∧ value run = n := by
  constructor
  · exact Numeral.value_eq
  · rintro ⟨numeral, rfl⟩
    exact numeral_value numeral

/-- A run spells one number at most. -/
theorem Numeral.unique {run : List Nat} {first second : Nat} (hf : Numeral run first)
    (hs : Numeral run second) : first = second :=
  hf.value_eq.2.symm.trans hs.value_eq.2

/-- Only digits spell a number. -/
theorem Numeral.isDigit_of_mem {run : List Nat} {n code : Nat} (spelled : Numeral run n)
    (hm : code ∈ run) : isDigit code = true := by
  have numeral := spelled.value_eq.1
  simp only [isNumeral, Bool.and_eq_true, List.all_eq_true] at numeral
  exact numeral.2 code hm

/-- A zero in front of a numeral leaves its number as it is. -/
theorem Numeral.zero_cons {run : List Nat} {n : Nat} (spelled : Numeral run n) :
    Numeral (48 :: run) n := by
  induction spelled with
  | digit d =>
    -- Here the zero is all there is in front of the last digit.
    simpa using Numeral.more (Numeral.digit 0) d
  | more _ d ih => exact .more ih d

/-- Any number of zeros does so too. -/
theorem Numeral.zeros_append {run : List Nat} {n : Nat} (spelled : Numeral run n) (count : Nat) :
    Numeral (List.replicate count 48 ++ run) n := by
  induction count with
  | zero => exact spelled
  | succ count ih => exact ih.zero_cons

/-- The number that a run of characters spells is the one their digits have in base ten. -/
theorem value_map_toNat (run : List Char) :
    value (run.map Char.toNat) = Nat.ofDigitChars 10 run 0 := by
  rw [Nat.ofDigitChars_eq_foldl, value, List.foldl_map]
  rfl

/-- The digits of a number are digits. -/
theorem isDigit_of_mem_digits {n : Nat} {c : Char} (h : c ∈ digits n) :
    isDigit c.toNat = true := by
  have digit : c.isDigit = true := Nat.isDigit_of_mem_toDigits (by decide) (by decide) h
  simp only [Char.isDigit, Bool.and_eq_true, decide_eq_true_eq] at digit
  have low : 48 ≤ c.toNat := UInt32.le_iff_toNat_le.mp digit.1
  have high : c.toNat ≤ 57 := UInt32.le_iff_toNat_le.mp digit.2
  simp only [isDigit, low, high, decide_true, Bool.and_self]

/-- The digits written for a number spell it. -/
theorem numeral_digits (n : Nat) : Numeral ((digits n).map Char.toNat) n := by
  refine numeral_iff.mpr ⟨?_, ?_⟩
  · have written : digits n ≠ [] := Nat.toDigits_ne_nil
    simp only [isNumeral, Bool.and_eq_true, List.all_map, List.all_eq_true]
    refine ⟨by simpa using written, ?_⟩
    intro c hc
    exact isDigit_of_mem_digits hc
  · rw [value_map_toNat, digits, Nat.ofDigitChars_ten_toDigits]

section Writing

variable {run : List Nat} {n : Nat}

/-- A run that spells a number is not empty. -/
theorem Numeral.ne_nil (spelled : Numeral run n) : run ≠ [] := by
  cases spelled with
  | digit d => exact List.cons_ne_nil _ _
  | more before d => exact List.append_ne_nil_of_right_ne_nil _ (List.cons_ne_nil _ _)

/-- So with a code behind it there is more than one. -/
theorem Numeral.length_append_ne_one (spelled : Numeral run n) (code : Nat) :
    (run ++ [code]).length ≠ 1 := by
  have filled := List.length_pos_iff.mpr spelled.ne_nil
  rw [List.length_append, List.length_singleton]
  omega

/-- Of the runs of one length, one spells a number. -/
theorem Numeral.eq_of_length_eq {other : List Nat} {m : Nat} (spelled : Numeral run n)
    (spelled' : Numeral other m) (len : run.length = other.length) (same : n = m) :
    run = other := by
  induction spelled generalizing other m with
  | digit d =>
    cases spelled' with
    | digit d' => rw [same]
    | more before' d' => exact absurd len.symm (before'.length_append_ne_one _)
  | more before d ih =>
    cases spelled' with
    | digit d' => exact absurd len (before.length_append_ne_one _)
    | more before' d' =>
      have last : d.val = d'.val := by omega
      rw [ih before' (by simpa using len) (by omega), last]

/-- A run without padding: a digit alone, or one whose first digit is not zero. -/
def Unpadded (run : List Nat) : Prop := run.length = 1 ∨ run.head? ≠ some 48

/-- A digit is written as itself. -/
theorem map_digits_fin (d : Fin 10) : (digits d.val).map Char.toNat = [48 + d.val] := by
  rw [digits, Nat.toDigits_of_lt_base d.isLt]
  revert d
  decide

/-- A number of more digits is written with its last digit behind the others. -/
theorem map_digits_more (positive : 0 < n) (d : Fin 10) :
    (digits (10 * n + d.val)).map Char.toNat = (digits n).map Char.toNat ++ [48 + d.val] := by
  rw [digits, ← Nat.toDigits_append_toDigits (by decide) positive d.isLt, List.map_append]
  exact congrArg _ (map_digits_fin d)

/-- What is written for a number above zero does not begin with a zero. -/
theorem head?_map_digits_ne (positive : 0 < n) :
    ((digits n).map Char.toNat).head? ≠ some 48 := by
  induction n using Nat.strongRecOn with
  | ind n ih =>
    have last : n % 10 < 10 := Nat.mod_lt n (by decide)
    have split : 10 * (n / 10) + n % 10 = n := Nat.div_add_mod n 10
    rcases Nat.eq_zero_or_pos (n / 10) with none | some
    · rw [none, Nat.mul_zero, Nat.zero_add] at split
      have alone := map_digits_fin ⟨n % 10, last⟩
      simp only [split] at alone
      rw [alone, List.head?_cons]
      intro zero
      have same := Option.some.inj zero
      omega
    · have more := map_digits_more some ⟨n % 10, last⟩
      simp only [split] at more
      have filled : (digits (n / 10)).map Char.toNat ≠ [] := (numeral_digits (n / 10)).ne_nil
      rw [more, List.head?_append_of_ne_nil _ filled]
      exact ih (n / 10) (by omega) some

/-- No padding is written. -/
theorem unpadded_digits (n : Nat) : Unpadded ((digits n).map Char.toNat) := by
  rcases Nat.eq_zero_or_pos n with rfl | positive
  · exact .inl rfl
  · exact .inr (head?_map_digits_ne positive)

/-- And the run without padding that spells a number is the one that is written for it. -/
theorem Numeral.eq_digits (spelled : Numeral run n) (unpadded : Unpadded run) :
    run = (digits n).map Char.toNat := by
  induction spelled with
  | digit d => exact (map_digits_fin d).symm
  | @more run n before d ih =>
    -- There are two digits at least, so the first of them is that of the run before.
    have head : run.head? ≠ some 48 := by
      rcases unpadded with alone | head
      · exact absurd alone (before.length_append_ne_one _)
      · rwa [List.head?_append_of_ne_nil _ before.ne_nil] at head
    have written := ih (.inr head)
    have positive : 0 < n := by
      by_contra zero
      obtain rfl := Nat.eq_zero_of_not_pos zero
      exact head (congrArg List.head? written)
    rw [map_digits_more positive, ← written]

end Writing

section Bounded

variable {bound : Nat} {run : List Nat}

/-- A bounded reading finds a number if and only if the run spells it. -/
theorem below?_eq_some_iff_numeral {number : Fin bound} :
    below? bound run = some number ↔ Numeral run number.val := by
  rw [numeral_iff]
  unfold below?
  by_cases numeral : isNumeral run = true
  · by_cases fits : value run < bound
    · simp [numeral, fits, Fin.ext_iff]
    · have other : value run ≠ number.val := fun same => fits (same ▸ number.isLt)
      simp [numeral, fits, other]
  · simp [numeral]

/-- It finds none if and only if the run spells nothing below the bound. -/
theorem below?_eq_none_iff_numeral :
    below? bound run = none ↔ ∀ n, Numeral run n → bound ≤ n := by
  rw [Option.eq_none_iff_forall_ne_some]
  simp only [ne_eq, below?_eq_some_iff_numeral]
  constructor
  · intro unread n spelled
    exact Nat.le_of_not_lt fun small => unread ⟨n, small⟩ spelled
  · intro large number spelled
    exact absurd number.isLt (Nat.not_lt.mpr (large number.val spelled))

end Bounded

end ServiceProbe.Decimal
