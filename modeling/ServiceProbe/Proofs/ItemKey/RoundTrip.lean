import ServiceProbe.Proofs.ItemKey.Fields

/-!
# Round trip

A key written out and read again, be it one that was read before or any at all. A good name and the
separators always come back, so the key does if and only if its name is good and every parameter
keeps its closing quote.
-/

namespace ServiceProbe.ItemKey

/-- A list is read if and only if its first parameter is, and the others behind it unless the
closing bracket ended it. -/
theorem readFields_eq_ok_iff {size : Nat} {text rest : List Char} {values : List (List Char)} :
    readFields size text = .ok (values, rest) ↔
      ∃ field, readField size text = .ok field ∧
        (field.last = true ∧ values = [field.value] ∧ rest = field.rest ∨
          field.last = false ∧ ∃ more, readFields size field.rest = .ok (more, rest) ∧
            values = field.value :: more) := by
  rw [readFields]
  constructor
  · intro h
    split at h
    · cases h
    · rename_i field hf
      refine ⟨field, hf, ?_⟩
      split at h
      · rename_i hl
        cases h
        exact Or.inl ⟨hl, rfl, rfl⟩
      · rename_i hl
        split at h
        · cases h
        · rename_i more _ hr
          cases h
          exact Or.inr ⟨Bool.not_eq_true _ |>.mp hl, more, hr, rfl⟩
  · rintro ⟨field, hf, h⟩
    split
    · rename_i he
      rw [hf] at he
      cases he
    · rename_i he
      rw [hf] at he
      cases he
      obtain ⟨hl, rfl, rfl⟩ | ⟨hl, more, hr, rfl⟩ := h
      · rw [if_pos hl]
      · simp only [hl, hr, Bool.false_eq_true, if_false]

/-- A list has at least one parameter. -/
theorem ne_nil_of_readFields {size : Nat} {text rest : List Char} {values : List (List Char)}
    (h : readFields size text = .ok (values, rest)) : values ≠ [] := by
  obtain ⟨field, -, ⟨-, rfl, -⟩ | ⟨-, more, -, rfl⟩⟩ := readFields_eq_ok_iff.mp h
  · exact List.cons_ne_nil _ _
  · exact List.cons_ne_nil _ _

/-- What holds of every parameter that can be read holds of all those of a list. -/
theorem forall_of_readFields {size : Nat} {P : List Char → Prop}
    (hP : ∀ text field, readField size text = .ok field → P field.value)
    {text rest : List Char} {values : List (List Char)}
    (h : readFields size text = .ok (values, rest)) : ∀ value ∈ values, P value := by
  induction values generalizing text with
  | nil => exact absurd rfl (ne_nil_of_readFields h)
  | cons value values ih =>
    obtain ⟨field, hf, ⟨-, he, -⟩ | ⟨-, more, hm, he⟩⟩ := readFields_eq_ok_iff.mp h
    · cases he
      exact List.forall_mem_singleton.mpr (hP text field hf)
    · cases he
      exact List.forall_mem_cons.mpr ⟨hP text field hf, ih hm⟩

/-- Texts with commas between them and what ends the list. -/
def listed (texts : List (List Char)) (rest : List Char) : List Char :=
  List.intercalate [','] texts ++ ']' :: rest

/-- The last text stands before the closing bracket. -/
theorem listed_singleton (text rest : List Char) : listed [text] rest = text ++ ']' :: rest := by
  simp [listed]

/-- A text with others behind it stands before a comma. -/
theorem listed_cons_cons (text next : List Char) (texts : List (List Char)) (rest : List Char) :
    listed (text :: next :: texts) rest = text ++ ',' :: listed (next :: texts) rest := by
  simp [listed, List.intercalate_cons_cons]

/-- Written parameters with commas between them and what ends the list. -/
def spelled (values : List (List Char)) (rest : List Char) : List Char :=
  listed (values.map writeField) rest

/-- Written parameters begin with the first of them. -/
theorem exists_spelled_cons (value : List Char) (values : List (List Char)) (rest : List Char) :
    ∃ tail, spelled (value :: values) rest = writeField value ++ tail := by
  cases values with
  | nil => exact ⟨_, listed_singleton (writeField value) rest⟩
  | cons next values => exact ⟨_, listed_cons_cons _ (writeField next) (values.map writeField) rest⟩

/-- A parameter that is read back first keeps its closing quote. -/
theorem closes_of_readFields_spelled {size : Nat} {value : List Char}
    {values : List (List Char)} {rest left : List Char}
    (h : readFields size (spelled (value :: values) rest) = .ok (value :: values, left)) :
    Closes value := by
  by_contra hc
  obtain ⟨tail, ht⟩ := exists_spelled_cons value values rest
  rw [ht] at h
  obtain ⟨field, hf, ⟨-, he, -⟩ | ⟨-, more, -, he⟩⟩ := readFields_eq_ok_iff.mp h
  all_goals
    have hv : value = field.value := (List.cons.inj he).1
    exact value_ne_of_not_closes hc hf hv.symm

/-- Written parameters are read back if and only if all of them keep their closing quotes. -/
theorem readFields_spelled_iff (size : Nat) {values : List (List Char)} (hne : values ≠ [])
    (rest : List Char) :
    readFields size (spelled values rest) = .ok (values, rest) ↔
      ∀ value ∈ values, Closes value := by
  induction values with
  | nil => exact absurd rfl hne
  | cons value values ih =>
    rw [List.forall_mem_cons]
    by_cases closes : Closes value
    · cases values with
      | nil =>
        have hf := readField_writeField closes (show isSeparator ']' = true from rfl) size rest
        rw [spelled, List.map_singleton, listed_singleton, readFields_eq_ok_iff]
        simp [hf, closes]
      | cons next values =>
        have hf := readField_writeField closes (show isSeparator ',' = true from rfl) size
          (spelled (next :: values) rest)
        rw [spelled, List.map_cons, List.map_cons, listed_cons_cons, ← List.map_cons, ← spelled,
          readFields_eq_ok_iff, ← ih (List.cons_ne_nil _ _)]
        simp [hf, closes]
    · constructor
      · intro h
        exact absurd (closes_of_readFields_spelled h) closes
      · rintro ⟨hc, -⟩
        exact absurd hc closes

/-- A name is good if and only if it is not empty and all its characters belong in a name. -/
theorem checkName_eq_ok_iff {name : List Char} :
    checkName name = .ok () ↔ name ≠ [] ∧ ∀ c ∈ name, isNameChar c = true := by
  unfold checkName
  constructor
  · intro h
    split at h
    · cases h
    · rename_i hne
      split at h
      · rename_i all
        exact ⟨by simpa using hne, List.dropWhile_eq_nil_iff.mp all⟩
      · cases h
  · rintro ⟨hne, all⟩
    rw [if_neg (by simpa using hne), List.dropWhile_eq_nil_iff.mpr all]

/-- A good name: there is one, and it has no characters but ASCII letters and digits, dots,
underscores and hyphens. -/
structure GoodName (name : List Char) : Prop where
  /-- There is a name. -/
  ne_nil : name ≠ []
  /-- All its characters belong in a name. -/
  chars : ∀ c ∈ name, c.isAlphanum = true ∨ c = '.' ∨ c = '_' ∨ c = '-'

/-- The names that pass the check are the good ones. -/
theorem checkName_eq_ok_iff_good {name : List Char} : checkName name = .ok () ↔ GoodName name := by
  have chars : ∀ c, isNameChar c = true ↔ c.isAlphanum = true ∨ c = '.' ∨ c = '_' ∨ c = '-' := by
    intro c
    simp [isNameChar, or_assoc]
  simp only [checkName_eq_ok_iff, chars]
  exact ⟨fun h => ⟨h.1, h.2⟩, fun h => ⟨h.ne_nil, h.chars⟩⟩

/-- There is no opening bracket among characters of a name. -/
theorem bracket_not_mem_of_allowed {name : List Char} (h : ∀ c ∈ name, isNameChar c = true) :
    '[' ∉ name := by
  intro hm
  have hc := h '[' hm
  revert hc
  decide

/-- There is no opening bracket in a good name. -/
theorem bracket_not_mem_of_checkName {name : List Char} (h : checkName name = .ok ()) :
    '[' ∉ name :=
  bracket_not_mem_of_allowed (checkName_eq_ok_iff.mp h).2

/-- The name is what stands before the first opening bracket. -/
theorem takeWhile_name {name : List Char} (h : '[' ∉ name) (rest : List Char) :
    (name ++ rest).takeWhile (· != '[') = name ++ rest.takeWhile (· != '[') ∧
      (name ++ rest).dropWhile (· != '[') = rest.dropWhile (· != '[') := by
  have before : ∀ c ∈ name, (c != '[') = true := by
    intro c hc
    rw [bne_iff_ne]
    rintro rfl
    exact h hc
  exact ⟨List.takeWhile_append_of_pos before, List.dropWhile_append_of_pos before⟩

/-- A text is a key if and only if it is a good name, alone or in front of a bracketed list. -/
theorem parse_eq_ok_iff {text : String} {key : ItemKey} :
    parse text = .ok key ↔
      checkName key.name.toList = .ok () ∧
        (text = key.name ∧ key.params = [] ∨
          ∃ list, text.toList = key.name.toList ++ '[' :: list ∧
            readFields (Utf8.width text.toList) list =
              .ok (key.params.map String.toList, [])) := by
  simp only [parse]
  constructor
  · intro h
    split at h
    · cases h
    · rename_i good
      split at h
      · rename_i none
        cases h
        have parts := List.takeWhile_append_dropWhile (p := (· != '[')) (l := text.toList)
        rw [none, List.append_nil] at parts
        rw [String.toList_ofList, parts]
        rw [parts] at good
        exact ⟨good, Or.inl ⟨String.ofList_toList.symm, rfl⟩⟩
      · rename_i c list some
        obtain ⟨parts, first⟩ := split_of_dropWhile some
        obtain rfl : c = '[' := by simpa using first
        split at h
        · cases h
        · rename_i values read
          cases h
          refine ⟨by rwa [String.toList_ofList], Or.inr ⟨list, ?_, ?_⟩⟩
          · rwa [String.toList_ofList]
          · rw [read, List.map_map]
            simp
        · cases h
  · rintro ⟨good, ⟨rfl, hp⟩ | ⟨list, ht, read⟩⟩
    · have parts := takeWhile_name (bracket_not_mem_of_checkName good) []
      simp only [List.append_nil, List.takeWhile_nil, List.dropWhile_nil] at parts
      simp only [parts, good, String.ofList_toList, ← hp]
    · have parts := takeWhile_name (bracket_not_mem_of_checkName good) ('[' :: list)
      rw [← ht] at parts
      simp [parts, good, read]

/-- A key without parameters is written as its name. -/
theorem text_of_params_eq_nil {key : ItemKey} (h : key.params = []) : key.text = key.name := by
  rw [text, h]
  rfl

/-- A key with parameters is written as its name and the list in brackets. -/
theorem toList_text {key : ItemKey} (h : key.params ≠ []) :
    key.text.toList =
      key.name.toList ++ '[' :: spelled (key.params.map String.toList) [] := by
  have hne : key.params.isEmpty = false := List.isEmpty_eq_false_iff.mpr h
  rw [text, hne, if_neg Bool.false_ne_true, String.toList_append, String.toList_ofList,
    writeFields, spelled, listed]
  rfl

/-- A key with a good name is read back from its text if and only if all its parameters keep their
closing quotes. -/
theorem parse_text_iff_closes {key : ItemKey} (good : checkName key.name.toList = .ok ()) :
    parse key.text = .ok key ↔ ∀ param ∈ key.params, Closes param.toList := by
  rw [parse_eq_ok_iff]
  by_cases hp : key.params = []
  · simp [text_of_params_eq_nil hp, hp, good]
  · have hne : key.params.map String.toList ≠ [] := by simpa using hp
    have hs := readFields_spelled_iff (Utf8.width key.text.toList) hne []
    rw [List.forall_mem_map] at hs
    rw [← hs]
    constructor
    · rintro ⟨-, ⟨-, hn⟩ | ⟨list, ht, read⟩⟩
      · exact absurd hn hp
      · rw [toList_text hp] at ht
        have hl := (List.cons.inj (List.append_cancel_left ht)).2
        rwa [hl]
    · intro read
      exact ⟨good, Or.inr ⟨_, toList_text hp, read⟩⟩

/-- What has to be written in quotes: a parameter that begins or ends with a space, or holds a
separator or a quote. -/
def MustBeQuoted (value : List Char) : Prop :=
  value.head? = some ' ' ∨ value.getLast? = some ' ' ∨ ∃ c ∈ value, c = ',' ∨ c = ']' ∨ c = '"'

/-- What is written in quotes is what has to be. -/
theorem needsQuotes_iff {value : List Char} : needsQuotes value = true ↔ MustBeQuoted value := by
  simp [needsQuotes, MustBeQuoted, isSeparator, or_assoc]

/-- The keys that have a text: their name is a good one, and no parameter has to be written in quotes
and ends with a backslash. -/
structure Spellable (key : ItemKey) : Prop where
  /-- The name is a good one. -/
  name : GoodName key.name.toList
  /-- No parameter takes its closing quote for itself. -/
  params : ∀ param ∈ key.params,
    ¬ (MustBeQuoted param.toList ∧ param.toList.getLast? = some '\\')

/-- Spellable keys are those with a good name whose parameters all keep their closing quotes. -/
theorem spellable_iff {key : ItemKey} :
    key.Spellable ↔
      checkName key.name.toList = .ok () ∧ ∀ param ∈ key.params, Closes param.toList := by
  have closes : ∀ value : List Char,
      Closes value ↔ ¬ (MustBeQuoted value ∧ value.getLast? = some '\\') := by
    intro value
    rw [Closes, needsQuotes_iff, not_and]
  simp only [checkName_eq_ok_iff_good, closes]
  exact ⟨fun h => ⟨h.name, h.params⟩, fun h => ⟨h.1, h.2⟩⟩

/-- Of all keys whatsoever the spellable ones are read back from their text. The text of any other is
no key at all, or another one. -/
theorem parse_text_iff_spellable (key : ItemKey) :
    (parse key.text = .ok key ↔ key.Spellable) ∧
      (¬ key.Spellable ↔ (∃ error, parse key.text = .error error) ∨
        ∃ other, other ≠ key ∧ parse key.text = .ok other) := by
  have readBack : parse key.text = .ok key ↔ key.Spellable := by
    rw [spellable_iff]
    constructor
    · intro h
      have good := (parse_eq_ok_iff.mp h).1
      exact ⟨good, (parse_text_iff_closes good).mp h⟩
    · rintro ⟨good, closes⟩
      exact (parse_text_iff_closes good).mpr closes
  refine ⟨readBack, ?_⟩
  rw [← readBack]
  cases parse key.text with
  | error error => simp
  | ok other => simp

/-- The first parameter takes its closing quote and the comma behind it for itself, and another key is
read. -/
example : parse (text ⟨"k", ["a,\\", ",b"]⟩) = .ok ⟨"k", ["a,\",", "b\""]⟩ := by decide +kernel

/-- A key that was read is read back from its text if and only if none of its parameters both holds
a quote and ends with a backslash. -/
theorem parse_text_of_parse_iff (source : String) (key : ItemKey)
    (h : parse source = .ok key) :
    parse key.text = .ok key ↔
      ∀ param ∈ key.params, '"' ∈ param.toList → param.toList.getLast? ≠ some '\\' := by
  obtain ⟨good, ⟨-, hp⟩ | ⟨list, -, read⟩⟩ := parse_eq_ok_iff.mp h
  · rw [parse_text_iff_closes good, hp]
    simp
  · have closes : ∀ value ∈ key.params.map String.toList,
        (Closes value ↔ ('"' ∈ value → value.getLast? ≠ some '\\')) :=
      forall_of_readFields (fun _ _ hf => closes_iff_of_readField hf) read
    rw [List.forall_mem_map] at closes
    rw [parse_text_iff_closes good]
    exact forall₂_congr closes

/-- A key with two parameters that were quoted and a bare one. -/
def quotedKey : ItemKey := ⟨"k", ["a,b]", "say \"hi\"", "c"]⟩

/-- Separators and quotes come back where no parameter ends with a backslash. -/
theorem quotedKey_read_back :
    parse "k[\"a,b]\", \"say \\\"hi\\\"\" ,c]" = .ok quotedKey ∧
      parse quotedKey.text = .ok quotedKey := by
  have h : parse "k[\"a,b]\", \"say \\\"hi\\\"\" ,c]" = .ok quotedKey := by decide +kernel
  exact ⟨h, (parse_text_of_parse_iff _ quotedKey h).mpr (by decide)⟩

/-- A bare parameter with a quote in it and a backslash at its end is written in quotes and never
closed. -/
theorem backslash_not_read_back :
    parse "k[a\"\\]" = .ok ⟨"k", ["a\"\\"]⟩ ∧
      text ⟨"k", ["a\"\\"]⟩ = "k[\"a\\\"\\\"]" ∧
      parse (text ⟨"k", ["a\"\\"]⟩) = .error .unterminatedQuote := by
  refine ⟨?_, ?_, ?_⟩
  all_goals decide +kernel

end ServiceProbe.ItemKey
