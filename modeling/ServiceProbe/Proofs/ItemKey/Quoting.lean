import ServiceProbe.Proofs.ItemKey.Grammar

/-!
# Quoting where it is needed

When a key is written, each parameter is spelled bare or in quotes. A key with one parameter shows
which of the two: its bare spelling is read back as the same key if and only if the parameter is a
bare text with nothing to trim, and where it is not, quotes are written. But quotes are also written
around every parameter that has a quote in it, and only a quote at the very front would be taken for
an opening one.
-/

namespace ServiceProbe.ItemKey

/-- A name and the spelling of one parameter in brackets. -/
def withField (name : String) (spelling : List Char) : String :=
  name ++ String.ofList ('[' :: spelling ++ [']'])

/-- The characters of a name and a spelling in brackets. -/
theorem toList_withField (name : String) (spelling : List Char) :
    (withField name spelling).toList = name.toList ++ '[' :: (spelling ++ [']']) := by
  rw [withField, String.toList_append, String.toList_ofList, List.cons_append]

/-- The spelling is seen from the text. -/
theorem withField_inj {name : String} {first second : List Char} :
    withField name first = withField name second ↔ first = second := by
  rw [← String.toList_inj, toList_withField, toList_withField]
  simp

/-- A key with one parameter is written with that parameter in brackets. -/
theorem text_singleton (name param : String) :
    text ⟨name, [param]⟩ = withField name (writeField param.toList) := by
  rw [← String.toList_inj, toList_text (List.cons_ne_nil _ _), toList_withField,
    List.map_singleton, spelled, List.map_singleton, listed_singleton]

/-- A parameter in quotes is longer than it was. -/
theorem length_lt_length_quote (value : List Char) : value.length < (quote value).length := by
  have escaped : value.length ≤ (escape value).length := by
    induction value with
    | nil => exact Nat.le_refl _
    | cons c value ih =>
      rw [escape_cons, List.length_append, List.length_cons]
      split
      · simp only [List.length_cons, List.length_nil]
        omega
      · simp only [List.length_cons, List.length_nil]
        omega
  simp only [quote, List.length_cons, List.length_append, List.length_nil]
  omega

/-- A parameter is written in quotes, and not just as it is, if and only if the printer wants them. -/
theorem text_singleton_eq_quoted_iff (name param : String) :
    text ⟨name, [param]⟩ = withField name (quote param.toList) ↔
      needsQuotes param.toList = true := by
  rw [text_singleton, withField_inj, writeField]
  split
  · rename_i needs
    simp [needs]
  · rename_i bare
    have longer := length_lt_length_quote param.toList
    constructor
    · intro same
      rw [← same] at longer
      exact absurd longer (Nat.lt_irrefl _)
    · intro needs
      exact absurd needs bare

/-- The closing quote is no part of the value. -/
theorem Unquotes.length_lt {body value : List Char} (closed : Unquotes body value) :
    value.length < body.length := by
  induction closed with
  | close => exact Nat.zero_lt_one
  | escaped more ih =>
    simp only [List.length_cons]
    omega
  | plain noQuote noEscape more ih =>
    simp only [List.length_cons]
    omega

/-- A parameter is spelled as it stands if and only if it is a bare text with nothing to trim. -/
theorem exists_means_self_iff {value : List Char} :
    (∃ spelling : Spelling, spelling.text = value ∧ spelling.Means value) ↔ Bare value value := by
  constructor
  · rintro ⟨spelling, whole, means⟩
    cases spelling with
    | bare spaces body =>
      -- What is spelled comes first in the body, so there is no room for spaces before it.
      obtain ⟨trailing, tail⟩ := means.trailing
      have lengths := congrArg List.length whole
      have bodyLength := congrArg List.length tail
      simp only [Spelling.text, List.length_append, List.length_replicate] at lengths bodyLength
      obtain rfl : spaces = 0 := by omega
      rw [← show body = value from whole] at means ⊢
      exact means
    | quoted before body after =>
      have shorter := Unquotes.length_lt means
      have lengths := congrArg List.length whole
      simp only [Spelling.text, List.length_append, List.length_cons] at lengths
      omega
  · intro bare
    exact ⟨.bare 0 value, rfl, bare⟩

/-- A key with one parameter is read back from the bare spelling if and only if the parameter is a bare
text with nothing to trim. -/
theorem parse_withField_iff_bare {name : String} (good : GoodName name.toList) (param : String) :
    parse (withField name param.toList) = .ok ⟨name, [param]⟩ ↔
      Bare param.toList param.toList := by
  rw [parse_eq_ok_iff_exists_reading, ← exists_means_self_iff]
  constructor
  · rintro ⟨reading, spells⟩
    obtain ⟨spelling, fields, head, tail, fieldsEq⟩ := List.forall₂_cons_right_iff.mp spells.params
    obtain rfl := List.forall₂_nil_right_iff.mp tail
    have whole := spells.whole
    rw [Reading.text_of_fields_ne_nil (by simp [fieldsEq]), fieldsEq, ← spells.named,
      toList_withField, List.map_singleton, listed_singleton] at whole
    have texts := (List.cons.inj (List.append_cancel_left whole)).2
    exact ⟨spelling, (List.append_cancel_right texts).symm, head⟩
  · rintro ⟨spelling, whole, means⟩
    refine ⟨⟨name.toList, [spelling]⟩, ?_, rfl, good, .cons means .nil⟩
    rw [toList_withField, Reading.text_of_fields_ne_nil (List.cons_ne_nil _ _),
      List.map_singleton, listed_singleton, whole]

/-- The printer wants no quotes around a bare text with nothing to trim and without a quote in it. -/
theorem needsQuotes_iff_not_bare (value : List Char) :
    needsQuotes value = true ↔ ¬ Bare value value ∨ '"' ∈ value := by
  have plain : needsQuotes value = false ↔ Bare value value ∧ '"' ∉ value := by
    rw [needsQuotes_eq_false_iff]
    constructor
    · rintro ⟨first, last, inside⟩
      have noQuote : '"' ∉ value := fun hq => (inside _ hq).2 rfl
      refine ⟨⟨fun c hc => isSeparator_eq_false_iff.mp (inside c hc).1, ⟨first, ?_⟩,
        ⟨0, (List.append_nil _).symm⟩, last⟩, noQuote⟩
      exact fun hq => noQuote (List.mem_of_head? hq)
    · rintro ⟨bare, noQuote⟩
      refine ⟨bare.first.1, bare.last, fun c hc => ⟨isSeparator_eq_false_iff.mpr (bare.inside c hc), ?_⟩⟩
      rintro rfl
      exact noQuote hc
  rw [← not_iff_not, Bool.not_eq_true, plain, not_or, not_not]

/-- What it means that a parameter is written in quotes where it needs them. -/
structure QuotedWhereNeeded (name param : String) : Prop where
  /-- It is written in one of two spellings, as it is or in quotes. -/
  spelled : text ⟨name, [param]⟩ = withField name param.toList ∨
    text ⟨name, [param]⟩ = withField name (quote param.toList)
  /-- It is in quotes whenever it would not be read back without them. -/
  needed : parse (withField name param.toList) ≠ .ok ⟨name, [param]⟩ →
    text ⟨name, [param]⟩ = withField name (quote param.toList)
  /-- It is in quotes if and only if it would not be read back without them, or has a quote in it. -/
  quoted : text ⟨name, [param]⟩ = withField name (quote param.toList) ↔
    parse (withField name param.toList) ≠ .ok ⟨name, [param]⟩ ∨ '"' ∈ param.toList
  /-- So it is in quotes only when it needs them, unless it has a quote in it and yet is a bare text
  with nothing to trim. -/
  only : (text ⟨name, [param]⟩ = withField name (quote param.toList) ↔
      parse (withField name param.toList) ≠ .ok ⟨name, [param]⟩) ↔
    ¬ ('"' ∈ param.toList ∧ Bare param.toList param.toList)

/-- Every parameter behind a good name is written in quotes where it needs them. -/
theorem quotedWhereNeeded {name : String} (good : GoodName name.toList) (param : String) :
    QuotedWhereNeeded name param := by
  have readBack := parse_withField_iff_bare good param
  have written := text_singleton_eq_quoted_iff name param
  have needs := needsQuotes_iff_not_bare param.toList
  constructor
  case spelled =>
    rw [text_singleton, writeField]
    split
    · exact .inr rfl
    · exact .inl rfl
  case needed =>
    intro unread
    rw [written, needs, ← readBack]
    exact .inl unread
  case quoted => rw [written, needs, ne_eq, readBack]
  case only =>
    rw [written, needs, ne_eq, readBack, or_iff_left_iff_imp, not_and]

/-- A parameter that stands in quotes itself is read without them when it is spelled as it is, so it
is written in quotes once more. -/
theorem ownQuotes_quoted :
    GoodName "k".toList ∧ parse (withField "k" "\"a\"".toList) = .ok ⟨"k", ["a"]⟩ ∧
      text ⟨"k", ["\"a\""]⟩ = withField "k" (quote "\"a\"".toList) := by
  have good : GoodName "k".toList := checkName_eq_ok_iff_good.mp rfl
  have other : parse (withField "k" "\"a\"".toList) = .ok ⟨"k", ["a"]⟩ := by decide +kernel
  refine ⟨good, other, (quotedWhereNeeded good "\"a\"").needed ?_⟩
  rw [other]
  decide

/-- A parameter with a quote behind its first character is read back from the bare spelling, and is
written in quotes all the same. -/
theorem innerQuote_quoted :
    GoodName "k".toList ∧ parse (withField "k" "a\"b".toList) = .ok ⟨"k", ["a\"b"]⟩ ∧
      text ⟨"k", ["a\"b"]⟩ = withField "k" (quote "a\"b".toList) ∧
      ¬ ∀ name param, GoodName name.toList →
        (text ⟨name, [param]⟩ = withField name (quote param.toList) ↔
          parse (withField name param.toList) ≠ .ok ⟨name, [param]⟩) := by
  have good : GoodName "k".toList := checkName_eq_ok_iff_good.mp rfl
  have back : parse (withField "k" "a\"b".toList) = .ok ⟨"k", ["a\"b"]⟩ := by decide +kernel
  have quoted : text ⟨"k", ["a\"b"]⟩ = withField "k" (quote "a\"b".toList) := by
    decide +kernel
  refine ⟨good, back, quoted, ?_⟩
  intro law
  exact (law "k" "a\"b" good).mp quoted back

end ServiceProbe.ItemKey
