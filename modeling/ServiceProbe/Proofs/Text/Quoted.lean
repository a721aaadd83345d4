import Mathlib.Data.List.Forall2
import ServiceProbe.Text.Quoted

/-!
# Text between quotes

How a message spells a text between double quotes, told character by character and apart from the
printer. Six characters have a letter of their own, a character with a picture stands for itself, and
any other is told by its code. Each character has one spelling, so a text has one too.
-/

namespace ServiceProbe.Quoted

/-- The characters that are told by a letter, with the letter. -/
def signs : List (Char × Char) :=
  [('\x00', '0'), ('\t', 't'), ('\r', 'r'), ('\n', 'n'), ('\\', '\\'), ('\x22', '\x22')]

/-- A character with a picture of its own: in ASCII any but the controls, and past it any that no range
of the tables holds. -/
def Pictured (c : Char) : Prop :=
  (0x20 ≤ c.toNat ∧ c.toNat < 0x7F) ∨
    0x7F ≤ c.toNat ∧ ∀ range ∈ Printable.invisible ++ Printable.extending,
      ¬ (range.1 ≤ c.toNat ∧ c.toNat ≤ range.2)

/-- How a character is spelled between double quotes. -/
inductive Spells (c : Char) : List Char → Prop where
  /-- By its letter behind a backslash, -/
  | sign {letter : Char} (named : (c, letter) ∈ signs) : Spells c ['\\', letter]
  /-- or, without a letter, by itself if it has a picture, -/
  | picture (unnamed : ∀ letter, (c, letter) ∉ signs) (pictured : Pictured c) : Spells c [c]
  /-- and else by its code in base sixteen between braces. -/
  | code (unnamed : ∀ letter, (c, letter) ∉ signs) (unpictured : ¬ Pictured c) :
    Spells c (['\\', 'u', '\x7B'] ++ Nat.toDigits 16 c.toNat ++ ['\x7D'])

/-- How a text is shown: the spellings of its characters, one behind the other, between quotes. -/
def Shows (text quoted : List Char) : Prop :=
  ∃ spellings, List.Forall₂ Spells text spellings ∧
    quoted = '\x22' :: spellings.flatten ++ ['\x22']

/-- The tables say which characters have a picture. -/
theorem isPrintable_iff_pictured {c : Char} : Printable.isPrintable c = true ↔ Pictured c := by
  unfold Printable.isPrintable Pictured
  by_cases ascii : c.toNat < 0x7F
  · rw [if_pos ascii, decide_eq_true_iff]
    omega
  · rw [if_neg ascii, ← Bool.not_or, CodeRanges.covers, CodeRanges.covers, ← List.any_append,
      Bool.not_eq_true', List.any_eq_false]
    simp only [Bool.and_eq_true, decide_eq_true_eq]
    constructor
    · intro uncovered
      exact .inr ⟨Nat.not_lt.mp ascii, uncovered⟩
    · rintro (below | ⟨-, uncovered⟩)
      · omega
      · exact uncovered

/-- A character with a letter is escaped by it. -/
theorem escape_of_mem {c letter : Char} (named : (c, letter) ∈ signs) :
    escape double c = ['\\', letter] := by
  simp only [signs, List.mem_cons, Prod.mk.injEq, List.not_mem_nil, or_false] at named
  rcases named with ⟨rfl, rfl⟩ | ⟨rfl, rfl⟩ | ⟨rfl, rfl⟩ | ⟨rfl, rfl⟩ | ⟨rfl, rfl⟩ | ⟨rfl, rfl⟩ <;> rfl

/-- A character without a letter is escaped by its code, or not at all if it is printable. -/
theorem escape_of_forall_not_mem {c : Char} (unnamed : ∀ letter, (c, letter) ∉ signs) :
    escape double c = if Printable.isPrintable c then [c] else byCode c := by
  have others : ∀ other ∈ signs, c ≠ other.1 := by
    rintro ⟨other, letter⟩ named rfl
    exact unnamed letter named
  simp only [signs, List.forall_mem_cons] at others
  obtain ⟨nul, tab, carriage, newline, backslash, quote, -⟩ := others
  simp [escape, double, nul, tab, carriage, newline, backslash, quote]

/-- Each character has the spelling that it is escaped by, and no other. -/
theorem spells_iff {c : Char} {spelling : List Char} :
    Spells c spelling ↔ spelling = escape double c := by
  constructor
  · intro spells
    cases spells with
    | sign named => exact (escape_of_mem named).symm
    | picture unnamed pictured =>
      rw [escape_of_forall_not_mem unnamed, if_pos (isPrintable_iff_pictured.mpr pictured)]
    | code unnamed unpictured =>
      rw [escape_of_forall_not_mem unnamed, if_neg (mt isPrintable_iff_pictured.mp unpictured),
        byCode]
  · rintro rfl
    by_cases named : ∃ letter, (c, letter) ∈ signs
    · obtain ⟨letter, named⟩ := named
      rw [escape_of_mem named]
      exact .sign named
    · have unnamed := not_exists.mp named
      rw [escape_of_forall_not_mem unnamed]
      by_cases printable : Printable.isPrintable c = true
      · rw [if_pos printable]
        exact .picture unnamed (isPrintable_iff_pictured.mp printable)
      · rw [if_neg printable]
        exact .code unnamed (mt isPrintable_iff_pictured.mpr printable)

/-- The spellings of a text are its escaped characters. -/
theorem forall_spells_iff {text : List Char} {spellings : List (List Char)} :
    List.Forall₂ Spells text spellings ↔ spellings = text.map (escape double) := by
  induction text generalizing spellings with
  | nil => rw [List.forall₂_nil_left_iff, List.map_nil]
  | cons c text ih =>
    rw [List.forall₂_cons_left_iff, List.map_cons]
    constructor
    · rintro ⟨spelling, others, spells, rest, rfl⟩
      rw [spells_iff.mp spells, ih.mp rest]
    · rintro rfl
      exact ⟨_, _, spells_iff.mpr rfl, ih.mpr rfl, rfl⟩

/-- A text is shown as it is printed between quotes, and in no other way. -/
theorem shows_iff {shown : String} {quoted : List Char} :
    Shows shown.toList quoted ↔ quoted = (text shown).toList := by
  simp only [Shows, forall_spells_iff, exists_eq_left, text, String.toList_ofList,
    List.flatMap_def]
  exact Iff.rfl

/-- A tab and a quote are told by letters, a control without a letter by its code, and a letter beyond
ASCII by itself. -/
example : text "\t\x22\x1Bé" = "\x22\\t\\\x22\\u\x7B1b\x7Dé\x22" := by decide +kernel

end ServiceProbe.Quoted
