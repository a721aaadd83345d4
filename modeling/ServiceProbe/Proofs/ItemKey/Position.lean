import ServiceProbe.Proofs.ItemKey.Refusal

/-!
# Positions of faults

Two errors name a character and tell where it stands, in bytes from the start of the key: one that
belongs in no name, and one that ends no quoted parameter. Characters take one to four bytes, so the
position is the size of the text before the character, and that text is what was good so far.
-/

namespace ServiceProbe.ItemKey

/-- A character stands in a key behind some text and so many bytes from the start. -/
structure Stands (text : String) (c : Char) (position : Nat) (front : String) : Prop where
  /-- The key is that text, the character and a rest. -/
  whole : ∃ back, text = front ++ String.singleton c ++ back
  /-- The position is the size of the text before the character. -/
  bytes : position = front.utf8ByteSize

/-- A character is the first in a name that belongs in none. -/
structure FirstInName (text : String) (c : Char) (position : Nat) (front : String) : Prop
    extends Stands text c position front where
  /-- No opening bracket stands before it, and it is none. -/
  noBracket : '[' ∉ front.toList ∧ c ≠ '['
  /-- All characters before it may stand in a name. -/
  allowed : ∀ d ∈ front.toList, isNameChar d = true
  /-- It may not. -/
  refused : isNameChar c = false

/-- A character stands behind a quoted parameter that it cannot end. -/
structure BehindQuotes (text : String) (c : Char) (position : Nat) (front : String) : Prop
    extends Stands text c position front where
  /-- It is none of those that may stand there. -/
  refused : c ≠ ' ' ∧ c ≠ ',' ∧ c ≠ ']'
  /-- Before it stands a quoted parameter. -/
  quoted : EndsBehindQuotes front.toList
  /-- With a closing bracket in its place the text up to there is a key. -/
  accepted : ∃ key, parse (front ++ "]") = .ok key

/-- What stands in a key behind some characters, stands behind their bytes. -/
theorem stands_iff {text front : String} {c : Char} {position : Nat} :
    Stands text c position front ↔
      (∃ back, text.toList = front.toList ++ c :: back) ∧ position = Utf8.width front.toList := by
  rw [Utf8.width_eq_utf8ByteSize, String.ofList_toList]
  constructor
  · rintro ⟨⟨back, rfl⟩, bytes⟩
    exact ⟨⟨back.toList, by simp⟩, bytes⟩
  · rintro ⟨⟨back, whole⟩, bytes⟩
    refine ⟨⟨String.ofList back, ?_⟩, bytes⟩
    apply String.toList_injective
    simp [whole]

/-- The fault of a name is its first character that belongs in none. -/
theorem refused_invalidName_iff {text : String} {c : Char} {position : Nat} :
    Refused text (.invalidName c position) ↔ ∃ front, FirstInName text c position front := by
  constructor
  · intro refused
    cases refused with
    | @inName front back _ whole allowed refused noBracket =>
      refine ⟨String.ofList front, stands_iff.mpr ?_, ?_, ?_, refused⟩
      · rw [String.toList_ofList]
        exact ⟨⟨back, whole⟩, rfl⟩
      · rw [String.toList_ofList]
        exact ⟨bracket_not_mem_of_allowed allowed, noBracket⟩
      · rwa [String.toList_ofList]
    | inList begins stops => cases stops
  · rintro ⟨front, stands, noBracket, allowed, refused⟩
    obtain ⟨⟨back, whole⟩, rfl⟩ := stands_iff.mp stands
    exact .inName whole allowed refused noBracket.2

/-- The errors about a character of a key point at it. One tells that it is the first in the name that
belongs in none, the other that it stands behind a quoted parameter, where the key could have
ended. -/
theorem parse_error_points (text : String) (c : Char) (position : Nat) :
    (parse text = .error (.invalidName c position) ↔
      ∃ front, FirstInName text c position front) ∧
    (parse text = .error (.afterQuote c position) ↔
      ∃ front, BehindQuotes text c position front) := by
  rw [parse_eq_error_iff, parse_eq_error_iff, refused_invalidName_iff, refused_afterQuote_iff]
  refine ⟨Iff.rfl, ?_⟩
  constructor
  · rintro ⟨front, back, quoted, noSpace, noSeparator, whole, bytes⟩
    obtain ⟨noComma, noBracket⟩ := isSeparator_eq_false_iff.mp noSeparator
    refine ⟨String.ofList front, ?_, ⟨noSpace, noComma, noBracket⟩, ?_, ?_⟩
    · rw [stands_iff, String.toList_ofList]
      exact ⟨⟨back, whole⟩, bytes⟩
    · rwa [String.toList_ofList]
    · obtain ⟨before, body, value, after, closed, begins⟩ := quoted
      rw [← String.toList_ofList (l := front)] at begins
      exact begins.exists_key closed
  · rintro ⟨front, stands, ⟨noSpace, noComma, noBracket⟩, quoted, -⟩
    obtain ⟨⟨back, whole⟩, bytes⟩ := stands_iff.mp stands
    have noSeparator := isSeparator_eq_false_iff.mpr ⟨noComma, noBracket⟩
    exact ⟨_, back, quoted, noSpace, noSeparator, whole, bytes⟩

/-- Before the character stand six others, one of two bytes. -/
example : parse "k[\"é\" x]" = .error (.afterQuote 'x' 7) := by decide +kernel

end ServiceProbe.ItemKey
