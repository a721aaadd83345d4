import Mathlib.Data.List.Forall2
import ServiceProbe.Proofs.ItemKey.RoundTrip

/-!
# The grammar of item keys

What a text has to look like to be a key, and what key it is then, said apart from the reader: a
key is a good name, alone or in front of a list in brackets, and each parameter of the list is
spelled bare or in quotes with spaces around it. The reader accepts the texts of this grammar
and no others, with the values that the spellings mean, and no text is spelled in two ways.
-/

namespace ServiceProbe.ItemKey

/-- What stands behind an opening quote, up to the closing one, and the value that it spells. It is
read from the left: a backslash directly before a quote stands for that quote, every other
character for itself, and the first quote that no backslash takes ends the text. -/
inductive Unquotes : List Char → List Char → Prop
  /-- The closing quote. -/
  | close : Unquotes ['"'] []
  /-- A backslash and the quote that it stands for. -/
  | escaped {text value : List Char} (more : Unquotes text value) :
      Unquotes ('\\' :: '"' :: text) ('"' :: value)
  /-- A character that stands for itself. -/
  | plain {c : Char} {text value : List Char} (noQuote : c ≠ '"')
      (noEscape : c = '\\' → text.head? ≠ some '"') (more : Unquotes text value) :
      Unquotes (c :: text) (c :: value)

/-- What may be written bare, and the value that it spells. -/
structure Bare (body value : List Char) : Prop where
  /-- Nothing in it ends the parameter. -/
  inside : ∀ c ∈ body, c ≠ ',' ∧ c ≠ ']'
  /-- It does not begin with a space or a quote. -/
  first : body.head? ≠ some ' ' ∧ body.head? ≠ some '"'
  /-- Behind the value there are only spaces. -/
  trailing : ∃ spaces, body = value ++ List.replicate spaces ' '
  /-- All of the spaces are behind the value. -/
  last : value.getLast? ≠ some ' '

/-- How a parameter is spelled between two separators. -/
inductive Spelling where
  /-- Spaces and a bare text. -/
  | bare (spaces : Nat) (body : List Char)
  /-- Spaces, a text in quotes, and spaces again. The text comes with its closing quote. -/
  | quoted (before : Nat) (body : List Char) (after : Nat)

namespace Spelling

/-- The characters of a spelling. -/
def text : Spelling → List Char
  | bare spaces body => List.replicate spaces ' ' ++ body
  | quoted before body after =>
    List.replicate before ' ' ++ '"' :: body ++ List.replicate after ' '

/-- Whether a spelling is a good one, for a parameter of this value. -/
def Means : Spelling → List Char → Prop
  | bare _ body, value => Bare body value
  | quoted _ body _, value => Unquotes body value

end Spelling

/-- A key taken apart. -/
structure Reading where
  /-- The name. -/
  name : List Char
  /-- The spellings of the parameters; there are none when the name stands alone. -/
  fields : List Spelling

/-- The characters of a key. -/
def Reading.text (reading : Reading) : List Char :=
  match reading.fields with
  | [] => reading.name
  | fields => reading.name ++ '[' :: List.intercalate [','] (fields.map Spelling.text) ++ [']']

/-- Whether a text is a key when it is taken apart in this way. -/
structure Reading.Spells (reading : Reading) (text : String) (key : ItemKey) : Prop where
  /-- The parts make up the text. -/
  whole : text.toList = reading.text
  /-- The name is the name of the key. -/
  named : key.name.toList = reading.name
  /-- The name is a good one. -/
  good : GoodName reading.name
  /-- The spellings mean the parameters of the key, in order. -/
  params : List.Forall₂ (fun spelling param => spelling.Means param.toList) reading.fields
    key.params

/-- A quoted text has its closing quote at least. -/
theorem Unquotes.ne_nil {text value : List Char} (h : Unquotes text value) : text ≠ [] := by
  cases h <;> exact List.cons_ne_nil _ _

/-- A quoted text is read to its end, whatever follows it. -/
theorem Unquotes.readQuoted_append {text value : List Char} (h : Unquotes text value)
    (rest : List Char) : readQuoted (text ++ rest) = some (value, rest) := by
  induction h with
  | close => rfl
  | escaped more ih =>
    rw [List.cons_append, List.cons_append, readQuoted, ih]
    rfl
  | @plain c text value noQuote noEscape more ih =>
    have head : (text ++ rest).head? = text.head? := List.head?_append_of_ne_nil _ more.ne_nil
    rw [List.cons_append, readQuoted_cons noQuote (by rwa [head]), ih]
    rfl

/-- What is read behind an opening quote is a quoted text. -/
theorem exists_unquotes {text value rest : List Char} (h : readQuoted text = some (value, rest)) :
    ∃ body, Unquotes body value ∧ text = body ++ rest := by
  fun_induction readQuoted text generalizing value with
  | case1 => cases h
  | case2 tail ih =>
    obtain ⟨⟨read, left⟩, hr, he⟩ := Option.map_eq_some_iff.mp h
    cases he
    obtain ⟨body, hb, rfl⟩ := ih hr
    exact ⟨_, hb.escaped, rfl⟩
  | case3 tail =>
    cases h
    exact ⟨_, .close, rfl⟩
  | case4 c tail hc hq ih =>
    obtain ⟨⟨read, left⟩, hr, he⟩ := Option.map_eq_some_iff.mp h
    cases he
    obtain ⟨body, hb, rfl⟩ := ih hr
    refine ⟨_, hb.plain hq ?_, rfl⟩
    rintro rfl hh
    obtain ⟨after, rfl⟩ := List.head?_eq_some_iff.mp hh
    exact hc _ rfl rfl

/-- A separator is a comma or a closing bracket. -/
theorem isSeparator_eq_false_iff {c : Char} : isSeparator c = false ↔ c ≠ ',' ∧ c ≠ ']' := by
  simp [isSeparator]

/-- A bare text is one without separators that begins with neither a space nor a quote, and its value
is the trimmed text. -/
theorem bare_iff {body value : List Char} :
    Bare body value ↔
      (∀ c ∈ body, isSeparator c = false) ∧ body.head? ≠ some ' ' ∧ body.head? ≠ some '"' ∧
        trimEnd body = value := by
  rw [trimEnd_eq_iff]
  simp only [isSeparator_eq_false_iff]
  constructor
  · rintro ⟨inside, ⟨hs, hq⟩, trailing, last⟩
    exact ⟨inside, hs, hq, last, trailing⟩
  · rintro ⟨inside, hs, hq, last, trailing⟩
    exact ⟨inside, ⟨hs, hq⟩, trailing, last⟩

/-- A parameter is what some spelling of it reads as: the text up to its separator is a good spelling,
and the value is what that spelling means. -/
theorem exists_spelling {size : Nat} {text : List Char} {field : Field}
    (h : readField size text = .ok field) :
    ∃ spelling separator, Spelling.Means spelling field.value ∧ isSeparator separator = true ∧
      text = spelling.text ++ separator :: field.rest ∧ field.last = (separator == ']') := by
  obtain ⟨hs, spaces, ht⟩ := skipSpaces_eq_iff.mp (rfl : skipSpaces text = skipSpaces text)
  unfold readField at h
  split at h
  · rename_i quoted start
    split at h
    · cases h
    · rename_i value rest read
      obtain ⟨body, hb, rfl⟩ := exists_unquotes read
      obtain ⟨after, separator, hc, rfl, hv, hl⟩ := exists_of_endQuoted h
      refine ⟨.quoted spaces body after, separator, ?_, hc, ?_, hl⟩
      · rw [hv]
        exact hb
      · rw [ht, start]
        simp [Spelling.text]
  · rename_i noQuote
    have hq : (skipSpaces text).head? ≠ some '"' := by
      intro hh
      obtain ⟨quoted, he⟩ := List.head?_eq_some_iff.mp hh
      exact noQuote quoted he
    obtain ⟨body, separator, inside, hc, hb, hv, hl⟩ := exists_of_readBare h
    rw [hb, head?_append_separator_ne_iff (separator_ne hc rfl)] at hs hq
    refine ⟨.bare spaces body, separator, bare_iff.mpr ⟨inside, hs, hq, hv.symm⟩, hc, ?_, hl⟩
    rw [ht, hb]
    simp [Spelling.text]

/-- Behind a quoted text and spaces comes what has to end the parameter. -/
theorem Unquotes.readField {body value : List Char} (closed : Unquotes body value)
    (size before after : Nat) (rest : List Char) :
    ItemKey.readField size ((Spelling.quoted before body after).text ++ rest) =
      endQuoted size value (skipSpaces rest) := by
  have shape : (Spelling.quoted before body after).text ++ rest =
      List.replicate before ' ' ++ '"' :: (body ++ (List.replicate after ' ' ++ rest)) := by
    simp [Spelling.text]
  rw [shape, readField_spaces, readField_quote, closed.readQuoted_append]
  dsimp only
  rw [skipSpaces_append_spaces]

/-- A good spelling is read up to the separator behind it, as the value that it means. -/
theorem Spelling.Means.readField {spelling : Spelling} {value : List Char}
    (means : spelling.Means value) {separator : Char} (hs : isSeparator separator = true)
    (size : Nat) (rest : List Char) :
    ItemKey.readField size (spelling.text ++ separator :: rest) =
      .ok ⟨value, separator == ']', rest⟩ := by
  cases spelling with
  | bare spaces body =>
    obtain ⟨inside, first, quote, rfl⟩ := bare_iff.mp means
    rw [text, List.append_assoc, readField_spaces, readField_append inside first quote hs]
  | quoted before body after =>
    rw [Unquotes.readField means]
    exact endQuoted_separator hs size 0 value rest

/-- A list that is read is one of good spellings, with commas between them and a closing bracket. -/
theorem exists_spellings {size : Nat} {text rest : List Char} {values : List (List Char)}
    (h : readFields size text = .ok (values, rest)) :
    ∃ fields, fields ≠ [] ∧ List.Forall₂ Spelling.Means fields values ∧
      text = listed (fields.map Spelling.text) rest := by
  induction values generalizing text with
  | nil => exact absurd rfl (ne_nil_of_readFields h)
  | cons value values ih =>
    obtain ⟨field, hf, ended⟩ := readFields_eq_ok_iff.mp h
    obtain ⟨spelling, separator, means, hs, rfl, hl⟩ := exists_spelling hf
    obtain ⟨last, he, rfl⟩ | ⟨notLast, more, hm, he⟩ := ended
    · cases he
      have hc : separator = ']' := by rwa [last, eq_comm, beq_iff_eq] at hl
      refine ⟨[spelling], List.cons_ne_nil _ _, .cons means .nil, ?_⟩
      rw [List.map_singleton, listed_singleton, hc]
    · cases he
      have hc : separator = ',' := by
        rw [notLast, eq_comm, beq_eq_false_iff_ne] at hl
        simpa [isSeparator, hl] using hs
      obtain ⟨fields, hne, hmeans, hrest⟩ := ih hm
      obtain ⟨next, fields, rfl⟩ := List.exists_cons_of_ne_nil hne
      refine ⟨spelling :: next :: fields, List.cons_ne_nil _ _, .cons means hmeans, ?_⟩
      simp only [hrest, hc, List.map_cons, listed_cons_cons]

/-- A list of good spellings is read as what they mean. -/
theorem readFields_listed {fields : List Spelling} (hne : fields ≠ []) {values : List (List Char)}
    (means : List.Forall₂ Spelling.Means fields values) (size : Nat) (rest : List Char) :
    readFields size (listed (fields.map Spelling.text) rest) = .ok (values, rest) := by
  induction means with
  | nil => exact absurd rfl hne
  | @cons spelling value fields values head tail ih =>
    cases tail with
    | nil =>
      have read := head.readField (show isSeparator ']' = true from rfl) size rest
      rw [List.map_singleton, listed_singleton, readFields_eq_ok_iff]
      exact ⟨_, read, .inl ⟨rfl, rfl, rfl⟩⟩
    | @cons next _ fields _ _ _ =>
      have read := head.readField (show isSeparator ',' = true from rfl) size
        (listed ((next :: fields).map Spelling.text) rest)
      have more := ih (List.cons_ne_nil _ _)
      simp only [List.map_cons, listed_cons_cons] at more read ⊢
      rw [readFields_eq_ok_iff]
      exact ⟨_, read, .inr ⟨rfl, _, more, rfl⟩⟩

/-- Where the spaces at the front of a text end, is seen from the text. -/
theorem spaces_append_inj {m n : Nat} {first second : List Char} (hf : first.head? ≠ some ' ')
    (hs : second.head? ≠ some ' ')
    (same : List.replicate m ' ' ++ first = List.replicate n ' ' ++ second) :
    m = n ∧ first = second := by
  have one := skipSpaces_eq_iff.mpr ⟨hf, m, rfl⟩
  have two := skipSpaces_eq_iff.mpr ⟨hs, n, rfl⟩
  rw [same, two] at one
  subst one
  exact ⟨by simpa using List.append_cancel_right same, rfl⟩

/-- A quoted text and the spaces behind it are told apart. -/
theorem Unquotes.append_spaces_inj {m n : Nat} {first second value : List Char}
    (hf : Unquotes first value) (hs : Unquotes second value)
    (same : first ++ List.replicate m ' ' = second ++ List.replicate n ' ') :
    first = second ∧ m = n := by
  have one := hf.readQuoted_append (List.replicate m ' ')
  have two := hs.readQuoted_append (List.replicate n ' ')
  rw [same, two] at one
  have left : n = m := by simpa using congrArg (fun read => read.map (·.2.length)) one
  subst left
  exact ⟨List.append_cancel_right same, rfl⟩

/-- Two good spellings of one value with the same characters are the same. -/
theorem Spelling.Means.eq_of_text_eq {first second : Spelling} {value : List Char}
    (hf : first.Means value) (hs : second.Means value) (same : first.text = second.text) :
    first = second := by
  have quoteHead : ∀ body after : List Char, ('"' :: body ++ after).head? ≠ some ' ' := by simp
  cases first with
  | bare m firstBody =>
    cases second with
    | bare n secondBody =>
      obtain ⟨rfl, rfl⟩ := spaces_append_inj hf.first.1 hs.first.1 same
      rfl
    | quoted n secondBody after =>
      rw [text, text, List.append_assoc] at same
      obtain ⟨-, rfl⟩ := spaces_append_inj hf.first.1 (quoteHead _ _) same
      exact absurd rfl hf.first.2
  | quoted m firstBody firstAfter =>
    cases second with
    | bare n secondBody =>
      rw [text, text, List.append_assoc] at same
      obtain ⟨-, rfl⟩ := spaces_append_inj (quoteHead _ _) hs.first.1 same
      exact absurd rfl hs.first.2
    | quoted n secondBody secondAfter =>
      rw [text, text, List.append_assoc, List.append_assoc] at same
      obtain ⟨rfl, bodies⟩ := spaces_append_inj (quoteHead _ _) (quoteHead _ _) same
      obtain ⟨rfl, rfl⟩ := Unquotes.append_spaces_inj hf hs (List.cons.inj bodies).2
      rfl

/-- A text in front of a separator has one good spelling at most. -/
theorem Spelling.Means.unique {first second : Spelling} {firstValue secondValue : List Char}
    (hf : first.Means firstValue) (hs : second.Means secondValue) {c d : Char}
    (hc : isSeparator c = true) (hd : isSeparator d = true) {left right : List Char}
    (same : first.text ++ c :: left = second.text ++ d :: right) :
    first = second ∧ left = right := by
  have one := hf.readField hc 0 left
  have two := hs.readField hd 0 right
  rw [same, two] at one
  obtain ⟨rfl, -, rfl⟩ := Field.mk.inj (Except.ok.inj one)
  obtain ⟨texts, -⟩ := List.append_inj' same rfl
  exact ⟨hf.eq_of_text_eq hs texts, rfl⟩

/-- The values of a list are spelled in one way at most by the same characters. -/
theorem spellings_unique {first second : List Spelling} {values : List (List Char)}
    (hf : List.Forall₂ Spelling.Means first values)
    (hs : List.Forall₂ Spelling.Means second values)
    (same : listed (first.map Spelling.text) [] = listed (second.map Spelling.text) []) :
    first = second := by
  induction hf generalizing second with
  | nil =>
    cases hs
    rfl
  | cons head tail ih =>
    cases hs with
    | cons otherHead otherTail =>
      cases tail with
      | nil =>
        cases otherTail
        simp only [List.map_cons, List.map_nil, listed_singleton] at same
        obtain ⟨rfl, -⟩ := head.unique otherHead rfl rfl same
        rfl
      | cons _ _ =>
        cases otherTail with
        | cons next others =>
          simp only [List.map_cons, listed_cons_cons] at same
          obtain ⟨rfl, more⟩ := head.unique otherHead rfl rfl same
          rw [ih (.cons next others) more]

/-- A key with parameters is its name and the list of their spellings in brackets. -/
theorem Reading.text_of_fields_ne_nil {reading : Reading} (h : reading.fields ≠ []) :
    reading.text = reading.name ++ '[' :: listed (reading.fields.map Spelling.text) [] := by
  obtain ⟨name, fields⟩ := reading
  obtain ⟨spelling, fields, rfl⟩ := List.exists_cons_of_ne_nil h
  simp [Reading.text, listed]

/-- Without parameters there are no spellings. -/
theorem Reading.Spells.fields_eq_nil_iff {reading : Reading} {text : String} {key : ItemKey}
    (h : reading.Spells text key) : reading.fields = [] ↔ key.params = [] := by
  rw [← List.length_eq_zero_iff, ← List.length_eq_zero_iff, h.params.length_eq]

/-- A text is read as a key if and only if it can be taken apart as that key. -/
theorem parse_eq_ok_iff_exists_reading {text : String} {key : ItemKey} :
    parse text = .ok key ↔ ∃ reading : Reading, reading.Spells text key := by
  rw [parse_eq_ok_iff, checkName_eq_ok_iff_good]
  constructor
  · rintro ⟨good, ⟨rfl, hp⟩ | ⟨list, ht, read⟩⟩
    · refine ⟨⟨key.name.toList, []⟩, rfl, rfl, good, ?_⟩
      rw [hp]
      exact .nil
    · obtain ⟨fields, hne, means, rfl⟩ := exists_spellings read
      refine ⟨⟨key.name.toList, fields⟩, ?_, rfl, good, List.forall₂_map_right_iff.mp means⟩
      rw [ht, Reading.text_of_fields_ne_nil hne]
  · rintro ⟨reading, spells⟩
    refine ⟨spells.named ▸ spells.good, ?_⟩
    by_cases alone : reading.fields = []
    · refine .inl ⟨?_, spells.fields_eq_nil_iff.mp alone⟩
      apply String.toList_injective
      rw [spells.whole, spells.named, Reading.text, alone]
    · refine .inr ⟨_, ?_, readFields_listed alone (List.forall₂_map_right_iff.mpr spells.params) _ _⟩
      rw [spells.whole, spells.named, Reading.text_of_fields_ne_nil alone]

/-- A text can be taken apart in one way only. -/
theorem Reading.Spells.unique {first second : Reading} {text : String} {firstKey secondKey : ItemKey}
    (hf : first.Spells text firstKey) (hs : second.Spells text secondKey) : first = second := by
  have one := parse_eq_ok_iff_exists_reading.mpr ⟨first, hf⟩
  have two := parse_eq_ok_iff_exists_reading.mpr ⟨second, hs⟩
  -- The reader has one answer, so both readings are of one key.
  obtain rfl : firstKey = secondKey := Except.ok.inj (one.symm.trans two)
  have names : first.name = second.name := hf.named.symm.trans hs.named
  have fields : first.fields = second.fields := by
    by_cases hp : firstKey.params = []
    · rw [hf.fields_eq_nil_iff.mpr hp, hs.fields_eq_nil_iff.mpr hp]
    · have hn := mt hf.fields_eq_nil_iff.mp hp
      have hm := mt hs.fields_eq_nil_iff.mp hp
      have same := hf.whole.symm.trans hs.whole
      rw [Reading.text_of_fields_ne_nil hn, Reading.text_of_fields_ne_nil hm, names] at same
      exact spellings_unique (List.forall₂_map_right_iff.mpr hf.params)
        (List.forall₂_map_right_iff.mpr hs.params) (List.cons.inj (List.append_cancel_left same)).2
  obtain ⟨firstName, firstFields⟩ := first
  obtain ⟨secondName, secondFields⟩ := second
  rw [Reading.mk.injEq]
  exact ⟨names, fields⟩

/-- A text is read as a key exactly when it is spelled by the grammar, as the key that it then spells,
and it is spelled in one way only. -/
theorem parse_eq_ok_iff_spelled (text : String) :
    (∀ key, parse text = .ok key ↔ ∃ reading : Reading, reading.Spells text key) ∧
      ∀ (first second : Reading) (firstKey secondKey : ItemKey),
        first.Spells text firstKey → second.Spells text secondKey → first = second := by
  constructor
  · intro key
    exact parse_eq_ok_iff_exists_reading
  · intro first second firstKey secondKey hf hs
    exact hf.unique hs

/-- A key with a bare parameter, in which a quote and a backslash are text, and a quoted one. -/
def mixedReading : Reading :=
  { name := ['k', '-', '1']
    fields :=
      [.bare 1 ['a', '"', '\\', ' '], .quoted 0 [',', '\\', '"', '\\', 'b', ']', '"'] 1] }

/-- Its text. -/
def mixedText : String := "k-1[ a\"\\ ,\",\\\"\\b]\" ]"

/-- The key that it spells. -/
def mixedKey : ItemKey := ⟨"k-1", ["a\"\\", ",\"\\b]"]⟩

/-- The text is read as what it means, and taken apart in no other way. -/
theorem mixedReading_spells :
    mixedReading.Spells mixedText mixedKey ∧ parse mixedText = .ok mixedKey ∧
      ∀ other key, Reading.Spells other mixedText key → other = mixedReading := by
  have bare : Bare ['a', '"', '\\', ' '] "a\"\\".toList :=
    ⟨by simp, by simp, ⟨1, rfl⟩, by decide⟩
  have quoted : Unquotes [',', '\\', '"', '\\', 'b', ']', '"'] ",\"\\b]".toList :=
    .plain (by decide) (by decide) (.escaped (.plain (by decide) (by decide)
      (.plain (by decide) (by decide) (.plain (by decide) (by decide) .close))))
  have good : GoodName mixedReading.name := by
    rw [← checkName_eq_ok_iff_good]
    rfl
  have spells : mixedReading.Spells mixedText mixedKey :=
    ⟨by decide, by decide, good, .cons bare (.cons quoted .nil)⟩
  obtain ⟨reads, unique⟩ := parse_eq_ok_iff_spelled mixedText
  refine ⟨spells, (reads _).mpr ⟨_, spells⟩, ?_⟩
  intro other key h
  exact unique other _ key _ h spells

end ServiceProbe.ItemKey
