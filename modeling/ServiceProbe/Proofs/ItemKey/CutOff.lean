import ServiceProbe.Proofs.ItemKey.Refusal

/-!
# Keys that are cut off

Some texts are refused only because they end too soon: in a list, inside quotes or outside of them.
These are told by two errors of their own, and something can be written behind each of them that
makes it a key. Every other error stays as it is whatever follows, and that anything follows a
closing bracket is itself an error. So a key in brackets is never the beginning of another key.
-/

namespace ServiceProbe.ItemKey

/-- A text ends inside quotes: a parameter begins with a quote that nothing closes. -/
def EndsInQuotes (text : List Char) : Prop :=
  ∃ spaces body, Unclosed body ∧ FieldBegins text (List.replicate spaces ' ' ++ '"' :: body)

/-- A key with a list in brackets. -/
structure IsBracketed (text : String) : Prop where
  /-- It is a key. -/
  accepted : ∃ key, parse text = .ok key
  /-- It ends with a bracket. -/
  closed : text.toList.getLast? = some ']'

/-- What it means that the error of a text tells whether the text was cut off. -/
structure TellsCutOff (text : String) (error : KeyError) : Prop where
  /-- The two errors of texts that end too soon are those of the texts that can be completed. -/
  cutOff : error = .missingBracket ∨ error = .unterminatedQuote ↔
    ∃ more key, parse (text ++ more) = .ok key
  /-- One of them tells that the text ends inside quotes. -/
  inQuotes : error = .unterminatedQuote ↔ EndsInQuotes text.toList
  /-- Another error tells that more follows a key in brackets, -/
  trailing : error = .trailingData ↔
    ∃ front, IsBracketed front ∧ front.toList <+: text.toList ∧ front ≠ text
  /-- and the text begins with one such key only. -/
  unique : ∀ first second, IsBracketed first → IsBracketed second →
    first.toList <+: text.toList → second.toList <+: text.toList → first = second

/-- A space and a quote close every quoted text: no backslash takes a quote behind a space. -/
theorem Unclosed.exists_unquotes {body : List Char} (unclosed : Unclosed body) :
    ∃ value, Unquotes (body ++ [' ', '"']) value := by
  induction unclosed with
  | nil => exact ⟨[' '], .plain (by decide) (by decide) .close⟩
  | escaped more ih =>
    obtain ⟨value, closed⟩ := ih
    exact ⟨_, closed.escaped⟩
  | @plain c text noQuote noEscape more ih =>
    obtain ⟨value, closed⟩ := ih
    refine ⟨_, closed.plain noQuote ?_⟩
    intro backslash
    cases text with
    | nil => simp
    | cons d text => exact noEscape backslash

/-- Quotes are open at the end of the text if and only if that is its fault. -/
theorem refused_unterminatedQuote_iff {text : String} :
    Refused text .unterminatedQuote ↔ EndsInQuotes text.toList := by
  constructor
  · intro refused
    cases refused with
    | inList begins stops =>
      cases stops with
      | inQuotes spaces unclosed => exact ⟨spaces, _, unclosed, begins⟩
  · rintro ⟨spaces, body, unclosed, begins⟩
    exact .inList begins (.inQuotes spaces unclosed)

/-- A text that is cut off inside quotes can be completed, -/
theorem EndsInQuotes.exists_key {text : String} (ends : EndsInQuotes text.toList) :
    ∃ more key, parse (text ++ more) = .ok key := by
  obtain ⟨spaces, body, unclosed, begins⟩ := ends
  obtain ⟨value, closed⟩ := unclosed.exists_unquotes
  have shape : List.replicate spaces ' ' ++ '"' :: body ++ [' ', '"'] =
      (Spelling.quoted spaces (body ++ [' ', '"']) 0).text := by simp [Spelling.text]
  have behind : FieldBegins (text ++ " \"").toList
      (Spelling.quoted spaces (body ++ [' ', '"']) 0).text := by
    rw [String.toList_append, ← shape]
    exact begins.append [' ', '"']
  obtain ⟨key, read⟩ := behind.exists_key closed
  rw [String.append_assoc] at read
  exact ⟨_, key, read⟩

/-- and so can one that is cut off outside of them. -/
theorem exists_key_of_missingBracket {text : String} (refused : Refused text .missingBracket) :
    ∃ more key, parse (text ++ more) = .ok key := by
  cases refused with
  | inList begins stops =>
    cases stops with
    | atEnd means => exact ⟨_, begins.exists_key means⟩

/-- A text that was not cut off keeps its fault, whatever is written behind it. -/
theorem Refused.append {text : String} {error : KeyError} (refused : Refused text error)
    (some : text ≠ "") (more : String) :
    error = .missingBracket ∨ error = .unterminatedQuote ∨ Refused (text ++ more) error := by
  cases refused with
  | noName first =>
    have begun : text.toList ≠ [] := by simpa using some
    refine .inr (.inr (.noName ?_))
    rwa [String.toList_append, List.head?_append_of_ne_nil _ begun]
  | @inName front back c whole allowed refused noBracket =>
    have longer : (text ++ more).toList = front ++ c :: (back ++ more.toList) := by simp [whole]
    exact .inr (.inr (.inName longer allowed refused noBracket))
  | inList begins stops =>
    cases stops with
    | atEnd => exact .inl rfl
    | inQuotes => exact .inr (.inl rfl)
    | @behindQuotes before after body value closed c noSpace noSeparator rest =>
      have fault : Refused text (.afterQuote c _) :=
        .inList begins (.behindQuotes before after closed noSpace noSeparator rest)
      obtain ⟨front, back, quoted, -, -, whole, position⟩ := refused_afterQuote_iff.mp fault
      have longer : (text ++ more).toList = front ++ c :: (back ++ more.toList) := by simp [whole]
      exact .inr (.inr (refused_afterQuote_iff.mpr
        ⟨front, _, quoted, noSpace, noSeparator, longer, position⟩))
  | @behindList name rest fields values good filled means whole behind =>
    have longer : (text ++ more).toList =
        name ++ '[' :: listed (fields.map Spelling.text) (rest ++ more.toList) := by
      simp [whole, listed]
    exact .inr (.inr (.behindList good filled means longer (by simp [behind])))

/-- A key in brackets is a good name and good parameters. -/
theorem IsBracketed.exists_spellings {text : String} (bracketed : IsBracketed text) :
    ∃ name fields values, GoodName name ∧ fields ≠ [] ∧
      List.Forall₂ Spelling.Means fields values ∧
        text.toList = name ++ '[' :: listed (fields.map Spelling.text) [] := by
  obtain ⟨⟨key, read⟩, closed⟩ := bracketed
  obtain ⟨good, ⟨rfl, -⟩ | ⟨list, whole, listRead⟩⟩ := parse_eq_ok_iff.mp read
  · have inside := (checkName_eq_ok_iff.mp good).2 ']' (List.mem_of_getLast? closed)
    exact absurd inside (by decide)
  · obtain ⟨fields, filled, means, rfl⟩ := ItemKey.exists_spellings listRead
    exact ⟨_, fields, _, checkName_eq_ok_iff_good.mp good, filled, means, whole⟩

/-- More behind a key in brackets is a fault. -/
theorem IsBracketed.refused {front text : String} (bracketed : IsBracketed front)
    (begins : front.toList <+: text.toList) (proper : front ≠ text) :
    Refused text .trailingData := by
  obtain ⟨rest, whole⟩ := begins
  obtain ⟨name, fields, values, good, filled, means, shape⟩ := bracketed.exists_spellings
  have more : rest ≠ [] := by
    rintro rfl
    rw [List.append_nil] at whole
    exact proper (String.toList_injective whole)
  have longer : text.toList = name ++ '[' :: listed (fields.map Spelling.text) rest := by
    simp [← whole, shape, listed]
  exact .behindList good filled means longer more

/-- It is the fault of every text that goes on behind such a key. -/
theorem refused_trailingData_iff {text : String} :
    Refused text .trailingData ↔
      ∃ front, IsBracketed front ∧ front.toList <+: text.toList ∧ front ≠ text := by
  constructor
  · intro refused
    cases refused with
    | inList begins stops => cases stops
    | @behindList name rest fields values good filled means whole more =>
      have shape := String.toList_ofList (l := name ++ '[' :: listed (fields.map Spelling.text) [])
      refine ⟨_, ⟨⟨_, parse_of_spellings good filled means shape⟩, ?_⟩, ?_, ?_⟩
      · rw [shape, listed, ← List.cons_append, ← List.append_assoc]
        exact List.getLast?_concat
      · rw [shape, whole]
        exact ⟨rest, by simp [listed]⟩
      · rintro rfl
        rw [shape] at whole
        exact more (by simpa [listed] using whole)
  · rintro ⟨front, bracketed, begins, proper⟩
    exact bracketed.refused begins proper

/-- A key in brackets is not the beginning of another key. -/
theorem IsBracketed.eq_of_prefix {first second : String} (bracketed : IsBracketed first)
    (accepted : ∃ key, parse second = .ok key) (begins : first.toList <+: second.toList) :
    first = second := by
  by_contra proper
  obtain ⟨key, read⟩ := accepted
  rw [parse_eq_error_iff.mpr (bracketed.refused begins proper)] at read
  cases read

/-- A text begins with one key in brackets at most. -/
theorem IsBracketed.unique {first second text : String} (hf : IsBracketed first)
    (hs : IsBracketed second) (firstBegins : first.toList <+: text.toList)
    (secondBegins : second.toList <+: text.toList) : first = second := by
  rcases List.prefix_or_prefix_of_prefix firstBegins secondBegins with begins | begins
  · exact hf.eq_of_prefix hs.accepted begins
  · exact (hs.eq_of_prefix hf.accepted begins).symm

/-- The error of a text tells whether it was cut off, or goes on behind a key, or has another fault. So
no key in brackets is the beginning of another key. -/
theorem error_tells_cutOff :
    (∀ (text : String) (error : KeyError), text ≠ "" → parse text = .error error →
      TellsCutOff text error) ∧
    ∀ first second : String, IsBracketed first → (∃ key, parse second = .ok key) →
      first.toList <+: second.toList → first = second := by
  refine ⟨?_, fun _ _ bracketed accepted begins => bracketed.eq_of_prefix accepted begins⟩
  intro text error some rejected
  have refused := parse_eq_error_iff.mp rejected
  -- A text has one error, so its fault decides which one.
  have told (other : KeyError) : error = other ↔ Refused text other := by
    rw [← parse_eq_error_iff, rejected, Except.error.injEq]
  refine ⟨?_, ?_, ?_, fun _ _ hf hs => hf.unique hs⟩
  · constructor
    · rintro (rfl | rfl)
      · exact exists_key_of_missingBracket refused
      · exact (refused_unterminatedQuote_iff.mp refused).exists_key
    · rintro ⟨more, key, read⟩
      obtain missing | opened | kept := refused.append some more
      · exact .inl missing
      · exact .inr opened
      · rw [parse_eq_error_iff.mpr kept] at read
        cases read
  · rw [told, refused_unterminatedQuote_iff]
  · rw [told, refused_trailingData_iff]

/-- A backslash at the end does not take the quote that is written behind it later, if a space comes
first. A second closing bracket behind a key leaves no key. -/
theorem backslash_cutOff :
    parse "k[\"a\\" = .error .unterminatedQuote ∧
      (∃ more key, parse ("k[\"a\\" ++ more) = .ok key) ∧ EndsInQuotes "k[\"a\\".toList ∧
      IsBracketed "k[a]" ∧ ¬ ∃ key, parse "k[a]]" = .ok key := by
  have rejected : parse "k[\"a\\" = .error .unterminatedQuote := by decide +kernel
  have accepted : parse "k[a]" = .ok ⟨"k", ["a"]⟩ := by decide +kernel
  have bracketed : IsBracketed "k[a]" := ⟨⟨_, accepted⟩, by decide⟩
  have tells := error_tells_cutOff.1 _ _ (by decide) rejected
  refine ⟨rejected, tells.cutOff.mp (.inr rfl), tells.inQuotes.mp rfl, bracketed, ?_⟩
  intro other
  exact absurd (error_tells_cutOff.2 _ _ bracketed other ⟨[']'], by decide⟩) (by decide)

end ServiceProbe.ItemKey
