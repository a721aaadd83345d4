import ServiceProbe.Proofs.ItemKey.Grammar

/-!
# Refused keys

What a text that is no key looks like, and with what error it is refused. Reading stops at the first
fault: in the name, or in a parameter behind any number of good ones. There the text ends too early,
inside quotes or outside of them, or goes on behind a closing quote with what cannot stand there.
If no parameter is at fault, something follows the closing bracket. These are all the faults, and
each is told by its own error.
-/

namespace ServiceProbe.ItemKey

/-- What stands behind an opening quote that nothing closes. Read from the left, every quote in it is
taken by a backslash. -/
inductive Unclosed : List Char → Prop
  /-- There is nothing. -/
  | nil : Unclosed []
  /-- A backslash and the quote that it takes. -/
  | escaped {text : List Char} (more : Unclosed text) : Unclosed ('\\' :: '"' :: text)
  /-- A character that stands for itself. -/
  | plain {c : Char} {text : List Char} (noQuote : c ≠ '"')
      (noEscape : c = '\\' → text.head? ≠ some '"') (more : Unclosed text) : Unclosed (c :: text)

/-- Texts with a comma behind each of them, in front of another text. -/
def led (texts : List (List Char)) (rest : List Char) : List Char :=
  texts.foldr (fun text behind => text ++ ',' :: behind) rest

/-- How a text stands where a parameter is read that cannot be, in a key of `size` bytes, and with
what error. -/
inductive Stops (size : Nat) : List Char → KeyError → Prop
  /-- A good spelling comes to the end of the key and has no separator. -/
  | atEnd {spelling : Spelling} {value : List Char} (means : spelling.Means value) :
      Stops size spelling.text .missingBracket
  /-- Quotes are opened and not closed. -/
  | inQuotes (spaces : Nat) {body : List Char} (unclosed : Unclosed body) :
      Stops size (List.replicate spaces ' ' ++ '"' :: body) .unterminatedQuote
  /-- Quotes are closed, and what follows the spaces behind them is no separator. -/
  | behindQuotes (before after : Nat) {body value : List Char} (closed : Unquotes body value)
      {c : Char} (noSpace : c ≠ ' ') (noSeparator : isSeparator c = false) (rest : List Char) :
      Stops size ((Spelling.quoted before body after).text ++ c :: rest)
        (.afterQuote c (size - Utf8.width (c :: rest)))

/-- A parameter begins in a text, behind a good name, an opening bracket and good parameters with
their commas. Given is all from there to the end. -/
def FieldBegins (text field : List Char) : Prop :=
  ∃ name fields values, GoodName name ∧ List.Forall₂ Spelling.Means fields values ∧
    text = name ++ '[' :: led (fields.map Spelling.text) field

/-- What a text looks like that is refused with an error. -/
inductive Refused (text : String) : KeyError → Prop
  /-- Nothing stands before the first opening bracket. -/
  | noName (first : ∀ c ∈ text.toList.head?, c = '[') : Refused text .emptyName
  /-- Behind characters of a name comes one that is none, and no opening bracket. -/
  | inName {front back : List Char} {c : Char} (whole : text.toList = front ++ c :: back)
      (allowed : ∀ d ∈ front, isNameChar d = true) (refused : isNameChar c = false)
      (noBracket : c ≠ '[') : Refused text (.invalidName c (Utf8.width front))
  /-- A parameter begins that cannot be read. -/
  | inList {field : List Char} {error : KeyError} (begins : FieldBegins text.toList field)
      (stops : Stops (Utf8.width text.toList) field error) : Refused text error
  /-- Behind a key with parameters comes more. -/
  | behindList {name rest : List Char} {fields : List Spelling} {values : List (List Char)}
      (good : GoodName name) (some : fields ≠ [])
      (means : List.Forall₂ Spelling.Means fields values)
      (whole : text.toList = name ++ '[' :: listed (fields.map Spelling.text) rest)
      (more : rest ≠ []) : Refused text .trailingData

/-- Quotes are not closed if and only if every quote behind them is taken by a backslash. -/
theorem readQuoted_eq_none_iff {text : List Char} : readQuoted text = none ↔ Unclosed text := by
  constructor
  · intro h
    fun_induction readQuoted text with
    | case1 => exact .nil
    | case2 tail ih => exact .escaped (ih (Option.map_eq_none_iff.mp h))
    | case3 => cases h
    | case4 c tail hc hq ih =>
      refine .plain hq ?_ (ih (Option.map_eq_none_iff.mp h))
      rintro rfl hh
      obtain ⟨after, rfl⟩ := List.head?_eq_some_iff.mp hh
      exact hc _ rfl rfl
  · intro unclosed
    induction unclosed with
    | nil => rfl
    | escaped more ih =>
      rw [readQuoted, ih]
      rfl
    | plain noQuote noEscape more ih =>
      rw [readQuoted_cons noQuote noEscape, ih]
      rfl

/-- A bare text ends the key where there is no separator in it. -/
theorem readBare_eq_error_iff {text : List Char} {error : KeyError} :
    readBare text = .error error ↔
      (∀ c ∈ text, isSeparator c = false) ∧ error = .missingBracket := by
  unfold readBare
  constructor
  · intro h
    split at h
    · rename_i none
      cases h
      exact ⟨by simpa using List.dropWhile_eq_nil_iff.mp none, rfl⟩
    · cases h
  · rintro ⟨inside, rfl⟩
    have none : text.dropWhile (!isSeparator ·) = [] := by
      simpa [List.dropWhile_eq_nil_iff] using inside
    rw [none]

/-- What cannot end a quoted parameter: nothing at all, and anything but a separator. -/
theorem endQuoted_eq_error_iff {size : Nat} {value text : List Char} {error : KeyError} :
    endQuoted size value text = .error error ↔
      text = [] ∧ error = .missingBracket ∨
        ∃ c rest, text = c :: rest ∧ isSeparator c = false ∧
          error = .afterQuote c (size - Utf8.width (c :: rest)) := by
  unfold endQuoted
  constructor
  · intro h
    split at h
    · cases h
      exact .inl ⟨rfl, rfl⟩
    · rename_i c rest
      split at h
      · cases h
      · rename_i noSeparator
        cases h
        exact .inr ⟨c, rest, rfl, by simpa using noSeparator, rfl⟩
  · rintro (⟨rfl, rfl⟩ | ⟨c, rest, rfl, noSeparator, rfl⟩)
    · rfl
    · simp only [noSeparator, Bool.false_eq_true, if_false]

/-- A parameter cannot be read if and only if the text stops. -/
theorem readField_eq_error_iff {size : Nat} {text : List Char} {error : KeyError} :
    readField size text = .error error ↔ Stops size text error := by
  constructor
  · intro h
    obtain ⟨hs, spaces, ht⟩ := skipSpaces_eq_iff.mp (rfl : skipSpaces text = skipSpaces text)
    unfold readField at h
    split at h
    · rename_i quoted start
      rw [ht, start]
      split at h
      · rename_i none
        cases h
        exact .inQuotes spaces (readQuoted_eq_none_iff.mp none)
      · rename_i value rest read
        obtain ⟨body, closed, rfl⟩ := exists_unquotes read
        obtain ⟨hr, after, rest_eq⟩ := skipSpaces_eq_iff.mp (rfl : skipSpaces rest = skipSpaces rest)
        have shape : List.replicate spaces ' ' ++ '"' :: (body ++ rest) =
            (Spelling.quoted spaces body after).text ++ skipSpaces rest := by
          conv_lhs => rw [rest_eq]
          simp [Spelling.text]
        rw [shape]
        obtain ⟨ended, rfl⟩ | ⟨c, behind, left, noSeparator, rfl⟩ := endQuoted_eq_error_iff.mp h
        · rw [ended, List.append_nil]
          exact @Stops.atEnd size (.quoted spaces body after) value closed
        · rw [left] at hr ⊢
          exact .behindQuotes spaces after closed (by simpa using hr) noSeparator behind
    · rename_i noQuote
      obtain ⟨inside, rfl⟩ := readBare_eq_error_iff.mp h
      have hq : (skipSpaces text).head? ≠ some '"' := by
        intro hh
        obtain ⟨quoted, he⟩ := List.head?_eq_some_iff.mp hh
        exact noQuote quoted he
      have means := bare_iff.mpr ⟨inside, hs, hq, rfl⟩
      rw [ht]
      exact @Stops.atEnd size (.bare spaces (skipSpaces text)) _ means
  · intro stops
    cases stops with
    | @atEnd spelling value means =>
      cases spelling with
      | bare spaces body =>
        obtain ⟨inside, hs, hq, -⟩ := bare_iff.mp means
        rw [Spelling.text, readField_spaces, readField_eq_readBare hs hq]
        exact readBare_eq_error_iff.mpr ⟨inside, rfl⟩
      | quoted before body after =>
        have read := Unquotes.readField means size before after []
        rw [List.append_nil] at read
        rw [read]
        exact endQuoted_eq_error_iff.mpr (.inl ⟨rfl, rfl⟩)
    | inQuotes spaces unclosed =>
      rw [readField_spaces, readField_quote, readQuoted_eq_none_iff.mpr unclosed]
    | @behindQuotes before after body value closed c noSpace noSeparator rest =>
      have kept : skipSpaces (c :: rest) = c :: rest :=
        skipSpaces_eq_iff.mpr ⟨by simpa using noSpace, 0, rfl⟩
      rw [closed.readField, kept]
      exact endQuoted_eq_error_iff.mpr (.inr ⟨c, rest, rfl, noSeparator, rfl⟩)

/-- Texts with commas behind them go on as the text behind them does. -/
theorem led_append (texts : List (List Char)) (rest more : List Char) :
    led texts rest ++ more = led texts (rest ++ more) := by
  induction texts with
  | nil => rfl
  | cons text texts ih =>
    rw [led, List.foldr_cons, ← led, List.append_assoc, List.cons_append, ih]
    rfl

/-- What is written behind a text is written behind its last parameter. -/
theorem FieldBegins.append {text field : List Char} (begins : FieldBegins text field)
    (more : List Char) : FieldBegins (text ++ more) (field ++ more) := by
  obtain ⟨name, fields, values, good, means, rfl⟩ := begins
  refine ⟨name, fields, values, good, means, ?_⟩
  rw [List.append_assoc, List.cons_append, led_append]

/-- A list ends with a text that no comma follows. -/
theorem listed_append_singleton (texts : List (List Char)) (text rest : List Char) :
    listed (texts ++ [text]) rest = led texts (text ++ ']' :: rest) := by
  induction texts with
  | nil => exact listed_singleton text rest
  | cons first texts ih =>
    cases texts with
    | nil => exact (listed_cons_cons first text [] rest).trans (by rw [listed_singleton]; rfl)
    | cons second texts =>
      rw [List.cons_append, List.cons_append, listed_cons_cons, ← List.cons_append, ih]
      rfl

/-- A list cannot be read if its first parameter cannot, or the list behind it. -/
theorem readFields_eq_error_iff {size : Nat} {text : List Char} {error : KeyError} :
    readFields size text = .error error ↔
      readField size text = .error error ∨
        ∃ field, readField size text = .ok field ∧ field.last = false ∧
          readFields size field.rest = .error error := by
  rw [readFields]
  constructor
  · intro h
    split at h
    · rename_i e hf
      cases h
      exact .inl hf
    · rename_i field hf
      split at h
      · cases h
      · rename_i hl
        split at h
        · rename_i e hr
          cases h
          exact .inr ⟨field, hf, by simpa using hl, hr⟩
        · cases h
  · rintro (hf | ⟨field, hf, hl, hr⟩)
    · split
      · rename_i he
        rw [hf] at he
        cases he
        rfl
      · rename_i he
        rw [hf] at he
        cases he
    · split
      · rename_i he
        rw [hf] at he
        cases he
      · rename_i he
        rw [hf] at he
        cases he
        simp only [hl, hr, Bool.false_eq_true, if_false]

/-- A list cannot be read if and only if the text stops behind good parameters, each with a comma. -/
theorem readFields_eq_error_iff_stops {size : Nat} {text : List Char} {error : KeyError} :
    readFields size text = .error error ↔
      ∃ fields values rest, List.Forall₂ Spelling.Means fields values ∧
        text = led (fields.map Spelling.text) rest ∧ Stops size rest error := by
  constructor
  · intro h
    induction len : text.length using Nat.strong_induction_on generalizing text with
    | _ n ih =>
      obtain hf | ⟨field, hf, hl, hr⟩ := readFields_eq_error_iff.mp h
      · exact ⟨[], [], text, .nil, rfl, readField_eq_error_iff.mp hf⟩
      · have shorter := length_readField_lt hf
        obtain ⟨fields, values, rest, means, behind, stops⟩ := ih _ (len ▸ shorter) hr rfl
        obtain ⟨spelling, separator, good, hs, rfl, he⟩ := exists_spelling hf
        have comma : separator = ',' := by
          rw [hl, eq_comm, beq_eq_false_iff_ne] at he
          simpa [isSeparator, he] using hs
        refine ⟨spelling :: fields, field.value :: values, rest, .cons good means, ?_, stops⟩
        rw [comma, behind]
        rfl
  · rintro ⟨fields, values, rest, means, rfl, stops⟩
    induction means with
    | nil => exact readFields_eq_error_iff.mpr (.inl (readField_eq_error_iff.mpr stops))
    | @cons spelling value fields values good means ih =>
      have read := good.readField (show isSeparator ',' = true from rfl) size
        (led (fields.map Spelling.text) rest)
      exact readFields_eq_error_iff.mpr (.inr ⟨_, read, rfl, ih⟩)

/-- The check of a name fails at its first character that belongs in none, or if there is no name. -/
theorem checkName_eq_error_iff {name : List Char} {error : KeyError} :
    checkName name = .error error ↔
      name = [] ∧ error = .emptyName ∨
        ∃ front c back, name = front ++ c :: back ∧ (∀ d ∈ front, isNameChar d = true) ∧
          isNameChar c = false ∧ error = .invalidName c (Utf8.width front) := by
  unfold checkName
  constructor
  · intro h
    split at h
    · rename_i none
      cases h
      exact .inl ⟨by simpa using none, rfl⟩
    · split at h
      · cases h
      · rename_i c back left
        cases h
        obtain ⟨parts, refused⟩ := split_of_dropWhile left
        refine .inr ⟨name.takeWhile isNameChar, c, back, parts, ?_, refused, rfl⟩
        intro d hd
        exact List.mem_takeWhile_imp hd
  · rintro (⟨rfl, rfl⟩ | ⟨front, c, back, rfl, allowed, refused, rfl⟩)
    · rfl
    · have refused' : ¬ isNameChar c = true := by simp [refused]
      rw [if_neg (by simp), List.dropWhile_append_of_pos allowed,
        List.takeWhile_append_of_pos allowed, List.dropWhile_cons_of_neg refused',
        List.takeWhile_cons_of_neg refused', List.append_nil]

/-- A text whose name fails is refused with that error. -/
theorem parse_of_checkName {text : String} {error : KeyError}
    (h : checkName (text.toList.takeWhile (· != '[')) = .error error) :
    parse text = .error error := by
  simp only [parse, h]

/-- Nothing stands before the first opening bracket if and only if the text has no other first
character. -/
theorem takeWhile_name_eq_nil_iff {text : List Char} :
    text.takeWhile (· != '[') = [] ↔ ∀ c ∈ text.head?, c = '[' := by
  cases text with
  | nil => simp
  | cons c text => simp [List.takeWhile_cons]

/-- A text that begins with a good name and an opening bracket is refused where the list behind them
cannot be read, and where more follows the list. -/
theorem parse_eq_error_iff_of_good {text : String} {name list : List Char} {error : KeyError}
    (good : GoodName name) (whole : text.toList = name ++ '[' :: list) :
    parse text = .error error ↔
      readFields (Utf8.width text.toList) list = .error error ∨
        ∃ values rest, readFields (Utf8.width text.toList) list = .ok (values, rest) ∧ rest ≠ [] ∧
          error = .trailingData := by
  have checked := checkName_eq_ok_iff_good.mpr good
  obtain ⟨before, behind⟩ :=
    takeWhile_name (bracket_not_mem_of_checkName checked) ('[' :: list)
  rw [← whole] at before behind
  have name_eq : text.toList.takeWhile (· != '[') = name := by simpa using before
  have list_eq : text.toList.dropWhile (· != '[') = '[' :: list := by simpa using behind
  simp only [parse, name_eq, list_eq, checked]
  cases readFields (Utf8.width text.toList) list with
  | error e => simp
  | ok read =>
    obtain ⟨values, rest⟩ := read
    cases rest with
    | nil => simp
    | cons c rest => simp [eq_comm]

/-- A text is refused with an error if and only if it has the fault that the error tells. -/
theorem parse_eq_error_iff {text : String} {error : KeyError} :
    parse text = .error error ↔ Refused text error := by
  constructor
  · intro h
    cases checked : checkName (text.toList.takeWhile (· != '[')) with
    | error e =>
      rw [parse_of_checkName checked] at h
      cases h
      obtain ⟨none, rfl⟩ | ⟨front, c, back, name, allowed, refused, rfl⟩ :=
        checkName_eq_error_iff.mp checked
      · exact .noName (takeWhile_name_eq_nil_iff.mp none)
      · have inside : c ∈ text.toList.takeWhile (· != '[') := by
          rw [name]
          simp
        have parts := List.takeWhile_append_dropWhile (p := (· != '[')) (l := text.toList)
        rw [name, List.append_assoc, List.cons_append] at parts
        exact .inName parts.symm allowed refused (by simpa using List.mem_takeWhile_imp inside)
    | ok =>
      have good := checkName_eq_ok_iff_good.mp checked
      cases behind : text.toList.dropWhile (· != '[') with
      | nil =>
        simp only [parse, checked, behind] at h
        cases h
      | cons c list =>
        obtain ⟨parts, first⟩ := split_of_dropWhile behind
        obtain rfl : c = '[' := by simpa using first
        obtain fails | ⟨values, rest, read, more, rfl⟩ :=
          (parse_eq_error_iff_of_good good parts).mp h
        · obtain ⟨fields, values, rest, means, rfl, stops⟩ := readFields_eq_error_iff_stops.mp fails
          exact .inList ⟨_, fields, values, good, means, parts⟩ stops
        · obtain ⟨fields, some, means, rfl⟩ := exists_spellings read
          exact .behindList good some means parts more
  · intro refused
    cases refused with
    | noName first =>
      apply parse_of_checkName
      rw [takeWhile_name_eq_nil_iff.mpr first]
      rfl
    | @inName front back c whole allowed refused noBracket =>
      have before : '[' ∉ front ++ [c] := by
        simpa [eq_comm, noBracket] using bracket_not_mem_of_allowed allowed
      have name := (takeWhile_name before back).1
      rw [List.append_assoc, List.singleton_append, List.append_assoc, List.singleton_append,
        ← whole] at name
      apply parse_of_checkName
      rw [name]
      exact checkName_eq_error_iff.mpr (.inr ⟨front, c, _, rfl, allowed, refused, rfl⟩)
    | @inList field error begins stops =>
      obtain ⟨name, fields, values, good, means, whole⟩ := begins
      have fails := readFields_eq_error_iff_stops.mpr ⟨fields, values, field, means, rfl, stops⟩
      exact (parse_eq_error_iff_of_good good whole).mpr (.inl fails)
    | @behindList name rest fields values good some means whole more =>
      have read := readFields_listed some means (Utf8.width text.toList) rest
      exact (parse_eq_error_iff_of_good good whole).mpr (.inr ⟨values, rest, read, more, rfl⟩)

/-- A text ends behind a quoted parameter and the spaces that follow it. -/
def EndsBehindQuotes (text : List Char) : Prop :=
  ∃ before body value after, Unquotes body value ∧
    FieldBegins text (Spelling.quoted before body after).text

/-- The fault behind quotes is a character that is no space and no separator, and its position is the
width of all before it. -/
theorem refused_afterQuote_iff {text : String} {c : Char} {position : Nat} :
    Refused text (.afterQuote c position) ↔
      ∃ front back, EndsBehindQuotes front ∧ c ≠ ' ' ∧ isSeparator c = false ∧
        text.toList = front ++ c :: back ∧ position = Utf8.width front := by
  constructor
  · intro refused
    cases refused with
    | inList begins stops =>
      cases stops with
      | @behindQuotes before after body value closed _ noSpace noSeparator back =>
        obtain ⟨name, fields, values, good, means, whole⟩ := begins
        rw [← led_append, ← List.cons_append, ← List.append_assoc] at whole
        refine ⟨_, back, ⟨before, body, value, after, closed, name, fields, values, good, means, rfl⟩,
          noSpace, noSeparator, whole, ?_⟩
        rw [whole, Utf8.width_append, Nat.add_sub_cancel]
  · rintro ⟨front, back, ⟨before, body, value, after, closed, begins⟩, noSpace, noSeparator, whole,
      rfl⟩
    have position : Utf8.width front = Utf8.width text.toList - Utf8.width (c :: back) := by
      rw [whole, Utf8.width_append, Nat.add_sub_cancel]
    have begins := begins.append (c :: back)
    rw [← whole] at begins
    rw [position]
    exact .inList begins (.behindQuotes before after closed noSpace noSeparator back)

/-- A good name and good parameters in brackets are a key. -/
theorem parse_of_spellings {text : String} {name : List Char} {fields : List Spelling}
    {values : List (List Char)} (good : GoodName name) (some : fields ≠ [])
    (means : List.Forall₂ Spelling.Means fields values)
    (whole : text.toList = name ++ '[' :: listed (fields.map Spelling.text) []) :
    parse text = .ok ⟨String.ofList name, values.map String.ofList⟩ := by
  have read := readFields_listed some means (Utf8.width text.toList) []
  rw [parse_eq_ok_iff, String.toList_ofList]
  refine ⟨checkName_eq_ok_iff_good.mpr good, .inr ⟨_, whole, ?_⟩⟩
  rw [read, List.map_map]
  simp

/-- A closing bracket behind a good parameter makes a key. -/
theorem FieldBegins.exists_key {text : String} {spelling : Spelling} {value : List Char}
    (begins : FieldBegins text.toList spelling.text) (good : spelling.Means value) :
    ∃ key, parse (text ++ "]") = .ok key := by
  obtain ⟨name, fields, values, goodName, means, whole⟩ := begins.append [']']
  have all : List.Forall₂ Spelling.Means (fields ++ [spelling]) (values ++ [value]) :=
    List.rel_append means (.cons good .nil)
  have texts : (fields ++ [spelling]).map Spelling.text =
      fields.map Spelling.text ++ [spelling.text] := List.map_append
  rw [← listed_append_singleton, ← texts] at whole
  exact ⟨_, parse_of_spellings goodName (by simp) all (String.toList_append.trans whole)⟩

end ServiceProbe.ItemKey
