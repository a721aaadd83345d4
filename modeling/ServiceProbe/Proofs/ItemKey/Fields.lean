import Mathlib.Data.List.TakeWhile
import ServiceProbe.ItemKey.Parser
import ServiceProbe.ItemKey.Printer

/-!
# Fields

One parameter, written and read again. What is read of it is settled by the spaces around it, by
the quotes if it has any, and by the separator that ends it. Escaping puts a backslash before each
quote, but a backslash stays as it is, so one at the very end of a quoted parameter takes the
closing quote for itself. Every other parameter comes back as it was.
-/

namespace ServiceProbe.ItemKey

/-- A text whose front is dropped is that front and what is left, which begins with a character that
is not dropped. -/
theorem split_of_dropWhile {p : Char → Bool} {text rest : List Char} {c : Char}
    (left : text.dropWhile p = c :: rest) : text = text.takeWhile p ++ c :: rest ∧ p c = false := by
  have parts := List.takeWhile_append_dropWhile (p := p) (l := text)
  have first := List.head?_dropWhile_not p text
  rw [left] at parts first
  exact ⟨parts.symm, first⟩

/-- Spaces in front of a text are skipped. -/
theorem skipSpaces_append_spaces (spaces : Nat) (text : List Char) :
    skipSpaces (List.replicate spaces ' ' ++ text) = skipSpaces text := by
  apply List.dropWhile_append_of_pos
  intro c hc
  simpa using List.eq_of_mem_replicate hc

/-- The text behind the spaces at its front is the one that does not begin with a space. -/
theorem skipSpaces_eq_iff {text rest : List Char} :
    skipSpaces text = rest ↔
      rest.head? ≠ some ' ' ∧ ∃ spaces, text = List.replicate spaces ' ' ++ rest := by
  constructor
  · rintro rfl
    constructor
    · intro hs
      have hd := List.head?_dropWhile_not (· == ' ') text
      rw [← skipSpaces, hs] at hd
      cases hd
    · have front : ∀ c ∈ text.takeWhile (· == ' '), c = ' ' := by
        intro c hc
        simpa using List.mem_takeWhile_imp hc
      refine ⟨(text.takeWhile (· == ' ')).length, ?_⟩
      rw [← List.eq_replicate_of_mem front, skipSpaces, List.takeWhile_append_dropWhile]
  · rintro ⟨hs, spaces, rfl⟩
    rw [skipSpaces_append_spaces]
    cases rest with
    | nil => rfl
    | cons c rest =>
      have hc : (c == ' ') = false := by simpa using hs
      rw [skipSpaces, List.dropWhile_cons, hc]
      rfl

/-- No spaces are left behind the skipped ones. -/
theorem head?_skipSpaces_ne (text : List Char) : (skipSpaces text).head? ≠ some ' ' :=
  (skipSpaces_eq_iff.mp rfl).1

/-- What trimming takes from the end are spaces. -/
theorem exists_trimEnd_append (text : List Char) :
    ∃ spaces, text = trimEnd text ++ List.replicate spaces ' ' := by
  induction text with
  | nil => exact ⟨0, rfl⟩
  | cons c rest ih =>
    obtain ⟨spaces, hr⟩ := ih
    rw [trimEnd]
    split
    · rename_i hn
      rw [hn, List.nil_append] at hr
      by_cases hc : c = ' '
      · refine ⟨spaces + 1, ?_⟩
        rw [if_pos hc, hr, hc]
        rfl
      · refine ⟨spaces, ?_⟩
        rw [if_neg hc, hr]
        rfl
    · refine ⟨spaces, ?_⟩
      rw [List.cons_append, ← hr]

/-- A trimmed text does not end with a space. -/
theorem getLast?_trimEnd_ne (text : List Char) : (trimEnd text).getLast? ≠ some ' ' := by
  induction text with
  | nil => simp [trimEnd]
  | cons c rest ih =>
    rw [trimEnd]
    split
    · by_cases hc : c = ' '
      · simp [hc]
      · simp [hc]
    · rename_i kept hk
      rw [List.getLast?_cons]
      cases hl : (trimEnd rest).getLast? with
      | none => exact absurd (List.getLast?_eq_none_iff.mp hl) (by simpa using hk)
      | some last =>
        rw [hl] at ih
        exact ih

/-- Spaces at the end of a text are trimmed away. -/
theorem trimEnd_append_spaces (text : List Char) (spaces : Nat) :
    trimEnd (text ++ List.replicate spaces ' ') = trimEnd text := by
  induction text with
  | nil =>
    induction spaces with
    | zero => rfl
    | succ spaces ih =>
      rw [List.nil_append] at ih ⊢
      rw [List.replicate_succ, trimEnd.eq_2, ih]
      rfl
  | cons c rest ih => rw [List.cons_append, trimEnd, ih, trimEnd]

/-- A text that does not end with a space is not trimmed. -/
theorem trimEnd_eq_self {text : List Char} (h : text.getLast? ≠ some ' ') :
    trimEnd text = text := by
  induction text with
  | nil => rfl
  | cons c rest ih =>
    cases rest with
    | nil =>
      have hc : c ≠ ' ' := by simpa using h
      simp [trimEnd, hc]
    | cons d rest =>
      rw [List.getLast?_cons_cons] at h
      rw [trimEnd, ih h]

/-- The trimmed text is what stands before the spaces at the end. -/
theorem trimEnd_eq_iff {text value : List Char} :
    trimEnd text = value ↔
      value.getLast? ≠ some ' ' ∧ ∃ spaces, text = value ++ List.replicate spaces ' ' := by
  constructor
  · rintro rfl
    exact ⟨getLast?_trimEnd_ne text, exists_trimEnd_append text⟩
  · rintro ⟨hl, spaces, rfl⟩
    rw [trimEnd_append_spaces, trimEnd_eq_self hl]

/-- Trimming only takes from the end. -/
theorem trimEnd_prefix (text : List Char) : trimEnd text <+: text := by
  obtain ⟨spaces, ht⟩ := exists_trimEnd_append text
  exact ⟨_, ht.symm⟩

/-- A separator differs from every character that is none. -/
theorem separator_ne {separator c : Char} (hs : isSeparator separator = true)
    (hc : isSeparator c = false) : separator ≠ c := by
  rintro rfl
  rw [hs] at hc
  cases hc

/-- A text in front of a separator begins with a character that is none if and only if both together
do. -/
theorem head?_append_separator_ne_iff {separator c : Char} (hc : separator ≠ c)
    (body rest : List Char) :
    (body ++ separator :: rest).head? ≠ some c ↔ body.head? ≠ some c := by
  cases body with
  | nil => simpa using hc
  | cons first body => rfl

/-- Nothing is escaped in nothing. -/
@[simp] theorem escape_nil : escape [] = [] := rfl

/-- Escaping goes by characters. -/
theorem escape_cons (c : Char) (value : List Char) :
    escape (c :: value) = (if c = '"' then ['\\', '"'] else [c]) ++ escape value := rfl

/-- Two texts are escaped one behind the other. -/
theorem escape_append (first second : List Char) :
    escape (first ++ second) = escape first ++ escape second := List.flatMap_append

/-- What is escaped and not empty does not begin with a quote. -/
theorem head?_escape_append_ne {value : List Char} (hne : value ≠ []) (text : List Char) :
    (escape value ++ text).head? ≠ some '"' := by
  obtain ⟨c, value, rfl⟩ := List.exists_cons_of_ne_nil hne
  rw [escape_cons]
  by_cases hc : c = '"'
  · simp [hc]
  · simp [hc]

/-- A character that neither is a quote nor stands as a backslash before one is text. -/
theorem readQuoted_cons {c : Char} {text : List Char} (hc : c ≠ '"')
    (h : c = '\\' → text.head? ≠ some '"') :
    readQuoted (c :: text) = (readQuoted text).map fun read => (c :: read.1, read.2) := by
  rw [readQuoted.eq_4]
  · rintro rest rfl rfl
    exact h rfl rfl
  · exact hc

/-- An escaped text is read as what it was, unless its last backslash meets a quote. -/
theorem readQuoted_escape_append {value text : List Char}
    (h : text.head? = some '"' → value.getLast? ≠ some '\\') :
    readQuoted (escape value ++ text) =
      (readQuoted text).map fun read => (value ++ read.1, read.2) := by
  induction value with
  | nil => simp
  | cons c value ih =>
    have hv : text.head? = some '"' → value.getLast? ≠ some '\\' := by
      intro ht hl
      apply h ht
      rw [List.getLast?_cons, hl]
      rfl
    have ih := ih hv
    by_cases hc : c = '"'
    · subst hc
      have he : escape ('"' :: value) ++ text = '\\' :: '"' :: (escape value ++ text) := rfl
      rw [he, readQuoted, ih, Option.map_map]
      rfl
    · have he : escape (c :: value) ++ text = c :: (escape value ++ text) := by
        rw [escape_cons, if_neg hc]
        rfl
      have hs : c = '\\' → (escape value ++ text).head? ≠ some '"' := by
        rintro rfl hq
        by_cases hne : value = []
        · subst hne
          exact h hq rfl
        · exact head?_escape_append_ne hne text hq
      rw [he, readQuoted_cons hc hs, ih, Option.map_map]
      rfl

/-- Whether a parameter keeps its closing quote: one that is written in quotes must not end with a
backslash. -/
def Closes (value : List Char) : Prop := needsQuotes value → value.getLast? ≠ some '\\'

/-- A quoted text without a backslash at its end is read up to the closing quote. -/
theorem readQuoted_escape {value : List Char} (h : value.getLast? ≠ some '\\')
    (rest : List Char) : readQuoted (escape value ++ '"' :: rest) = some (value, rest) := by
  rw [readQuoted_escape_append fun _ => h, readQuoted, Option.map_some, List.append_nil]

/-- A quoted text with a backslash at its end is read on behind the closing quote. -/
theorem readQuoted_escape_backslash (front rest : List Char) :
    readQuoted (escape (front ++ ['\\']) ++ '"' :: rest) =
      (readQuoted rest).map fun read => (front ++ '"' :: read.1, read.2) := by
  have he : escape (front ++ ['\\']) ++ '"' :: rest = escape front ++ '\\' :: '"' :: rest := by
    rw [escape_append, List.append_assoc]
    rfl
  have hh : ('\\' :: '"' :: rest).head? = some '"' → front.getLast? ≠ some '\\' := by simp
  rw [he, readQuoted_escape_append hh, readQuoted, Option.map_map]
  rfl

/-- A parameter that needs no quotes does not begin or end with a space and holds neither a
separator nor a quote. -/
theorem needsQuotes_eq_false_iff {value : List Char} :
    needsQuotes value = false ↔
      value.head? ≠ some ' ' ∧ value.getLast? ≠ some ' ' ∧
        ∀ c ∈ value, isSeparator c = false ∧ c ≠ '"' := by
  simp [needsQuotes, and_assoc]

/-- A text that begins with neither a space nor a quote holds a bare parameter. -/
theorem readField_eq_readBare {text : List Char} (hs : text.head? ≠ some ' ')
    (hq : text.head? ≠ some '"') (size : Nat) : readField size text = readBare text := by
  have skipped : skipSpaces text = text := skipSpaces_eq_iff.mpr ⟨hs, 0, rfl⟩
  unfold readField
  rw [skipped]
  split
  · exact absurd rfl hq
  · rfl

/-- A bare parameter is read up to the first separator. -/
theorem readBare_append {value : List Char} (h : ∀ c ∈ value, isSeparator c = false)
    {separator : Char} (hs : isSeparator separator = true) (rest : List Char) :
    readBare (value ++ separator :: rest) = .ok ⟨trimEnd value, separator == ']', rest⟩ := by
  have text : ∀ c ∈ value, (!isSeparator c) = true := by
    intro c hc
    rw [h c hc]
    rfl
  rw [readBare, List.dropWhile_append_of_pos text, List.takeWhile_append_of_pos text]
  simp [hs]

/-- A bare parameter is read up to the separator that ends it. -/
theorem exists_of_readBare {text : List Char} {field : Field} (h : readBare text = .ok field) :
    ∃ body separator, (∀ c ∈ body, isSeparator c = false) ∧ isSeparator separator = true ∧
      text = body ++ separator :: field.rest ∧ field.value = trimEnd body ∧
      field.last = (separator == ']') := by
  unfold readBare at h
  split at h
  · cases h
  · rename_i separator rest left
    cases h
    obtain ⟨parts, ends⟩ := split_of_dropWhile left
    refine ⟨text.takeWhile (!isSeparator ·), separator, ?_, by simpa using ends, parts, rfl, rfl⟩
    intro c hc
    simpa using List.mem_takeWhile_imp hc

/-- Spaces before a parameter are not part of it. -/
theorem readField_spaces (size spaces : Nat) (text : List Char) :
    readField size (List.replicate spaces ' ' ++ text) = readField size text := by
  unfold readField
  rw [skipSpaces_append_spaces]

/-- A text that begins with neither a space nor a quote is read up to the first separator. -/
theorem readField_append {body : List Char} (inside : ∀ c ∈ body, isSeparator c = false)
    (first : body.head? ≠ some ' ') (quote : body.head? ≠ some '"') {separator : Char}
    (hs : isSeparator separator = true) (size : Nat) (rest : List Char) :
    readField size (body ++ separator :: rest) = .ok ⟨trimEnd body, separator == ']', rest⟩ := by
  have first := (head?_append_separator_ne_iff (separator_ne hs rfl) body rest).mpr first
  have quote := (head?_append_separator_ne_iff (separator_ne hs rfl) body rest).mpr quote
  rw [readField_eq_readBare first quote, readBare_append inside hs]

/-- A parameter that needs no quotes is read as it is. -/
theorem readField_bare {value : List Char} (h : needsQuotes value = false) {separator : Char}
    (hs : isSeparator separator = true) (size : Nat) (rest : List Char) :
    readField size (value ++ separator :: rest) = .ok ⟨value, separator == ']', rest⟩ := by
  obtain ⟨first, last, inside⟩ := needsQuotes_eq_false_iff.mp h
  have quote : value.head? ≠ some '"' := by
    intro hq
    exact (inside _ (List.mem_of_head? hq)).2 rfl
  rw [readField_append (fun c hc => (inside c hc).1) first quote hs, trimEnd_eq_self last]

/-- A separator is found behind the closing quote and the spaces that follow it. -/
theorem endQuoted_separator {separator : Char} (hs : isSeparator separator = true)
    (size spaces : Nat) (value rest : List Char) :
    endQuoted size value (skipSpaces (List.replicate spaces ' ' ++ separator :: rest)) =
      .ok ⟨value, separator == ']', rest⟩ := by
  have skipped : skipSpaces (List.replicate spaces ' ' ++ separator :: rest) =
      separator :: rest :=
    skipSpaces_eq_iff.mpr ⟨by simpa using separator_ne hs rfl, spaces, rfl⟩
  rw [skipped, endQuoted, if_pos hs]

/-- Behind a closing quote stand spaces and the separator. -/
theorem exists_of_endQuoted {size : Nat} {value text : List Char} {field : Field}
    (h : endQuoted size value (skipSpaces text) = .ok field) :
    ∃ spaces separator, isSeparator separator = true ∧
      text = List.replicate spaces ' ' ++ separator :: field.rest ∧ field.value = value ∧
      field.last = (separator == ']') := by
  obtain ⟨-, spaces, ht⟩ := skipSpaces_eq_iff.mp (rfl : skipSpaces text = skipSpaces text)
  unfold endQuoted at h
  split at h
  · cases h
  · rename_i separator rest left
    split at h
    · rename_i hs
      cases h
      rw [left] at ht
      exact ⟨spaces, separator, hs, ht, rfl, rfl⟩
    · cases h

/-- A parameter behind a quote is read as a quoted one. -/
theorem readField_quote (size : Nat) (quoted : List Char) :
    readField size ('"' :: quoted) =
      match readQuoted quoted with
      | none => .error .unterminatedQuote
      | some (value, rest) => endQuoted size value (skipSpaces rest) := rfl

/-- The value of a quoted parameter is what was in the quotes. -/
theorem value_of_endQuoted {size : Nat} {value text : List Char} {field : Field}
    (h : endQuoted size value text = .ok field) : field.value = value := by
  unfold endQuoted at h
  split at h
  · cases h
  · split at h
    · cases h
      rfl
    · cases h

/-- A written parameter that keeps its closing quote is read back. -/
theorem readField_writeField {value : List Char} (h : Closes value) {separator : Char}
    (hs : isSeparator separator = true) (size : Nat) (rest : List Char) :
    readField size (writeField value ++ separator :: rest) =
      .ok ⟨value, separator == ']', rest⟩ := by
  rw [writeField]
  cases hq : needsQuotes value with
  | false => exact readField_bare hq hs size rest
  | true =>
    have hw : quote value ++ separator :: rest =
        '"' :: (escape value ++ '"' :: separator :: rest) := by simp [quote]
    rw [if_pos rfl, hw, readField_quote, readQuoted_escape (h hq)]
    exact endQuoted_separator hs size 0 value rest

/-- A written parameter that loses its closing quote is not read back. -/
theorem value_ne_of_not_closes {value : List Char} (h : ¬ Closes value) {size : Nat}
    {rest : List Char} {field : Field}
    (hr : readField size (writeField value ++ rest) = .ok field) : field.value ≠ value := by
  obtain ⟨hq, hl⟩ : needsQuotes value = true ∧ value.getLast? = some '\\' := by
    simpa [Closes] using h
  obtain ⟨front, rfl⟩ := List.getLast?_eq_some_iff.mp hl
  have hw : quote (front ++ ['\\']) ++ rest =
      '"' :: (escape (front ++ ['\\']) ++ '"' :: rest) := by simp [quote]
  rw [writeField, if_pos hq, hw, readField_quote, readQuoted_escape_backslash] at hr
  -- The closing quote has become a character of the value.
  cases more : readQuoted rest with
  | none =>
    rw [more] at hr
    cases hr
  | some read =>
    rw [more] at hr
    rw [value_of_endQuoted hr]
    simp

/-- A quoted text is empty only if it is closed at once. -/
theorem head?_of_readQuoted_nil {text rest : List Char}
    (h : readQuoted text = some ([], rest)) : text.head? = some '"' := by
  unfold readQuoted at h
  split at h
  · cases h
  · simp at h
  · rfl
  · simp at h

/-- A quoted text that was read does not end with a backslash. -/
theorem getLast?_ne_of_readQuoted {text value rest : List Char}
    (h : readQuoted text = some (value, rest)) : value.getLast? ≠ some '\\' := by
  fun_induction readQuoted text generalizing value with
  | case1 => cases h
  | case2 tail ih =>
    obtain ⟨read, hr, he⟩ := Option.map_eq_some_iff.mp h
    cases he
    have hl := ih hr
    rw [List.getLast?_cons]
    cases hv : read.1.getLast? with
    | none => simp
    | some last =>
      rw [hv] at hl
      exact hl
  | case3 tail =>
    cases h
    simp
  | case4 c tail hc hq ih =>
    obtain ⟨read, hr, he⟩ := Option.map_eq_some_iff.mp h
    cases he
    have hl := ih hr
    rw [List.getLast?_cons]
    cases hv : read.1.getLast? with
    | none =>
      -- The last character stands directly before the closing quote, where a backslash would
      -- have escaped it.
      have hn : read = ([], read.2) := Prod.ext (List.getLast?_eq_none_iff.mp hv) rfl
      rw [hn] at hr
      have hh := head?_of_readQuoted_nil hr
      obtain ⟨after, rfl⟩ := List.head?_eq_some_iff.mp hh
      intro he
      cases he
      exact hc after rfl rfl
    | some last =>
      rw [hv] at hl
      exact hl

/-- A bare parameter that was read neither begins with a space nor holds a separator. -/
theorem readBare_value {text : List Char} (hs : text.head? ≠ some ' ') {field : Field}
    (h : readBare text = .ok field) :
    field.value.head? ≠ some ' ' ∧ ∀ c ∈ field.value, isSeparator c = false := by
  obtain ⟨body, separator, inside, -, rfl, hv, -⟩ := exists_of_readBare h
  have front : field.value <+: body := hv ▸ trimEnd_prefix body
  constructor
  · intro hc
    obtain ⟨rest, rfl⟩ := front
    rw [List.append_assoc, List.head?_append, hc] at hs
    exact hs rfl
  · intro c hc
    exact inside c (front.subset hc)

/-- A parameter that ends with a backslash was read bare. -/
theorem readBare_of_getLast? {size : Nat} {text : List Char} {field : Field}
    (h : readField size text = .ok field) (hl : field.value.getLast? = some '\\') :
    readBare (skipSpaces text) = .ok field := by
  unfold readField at h
  split at h
  · split at h
    · cases h
    · rename_i read
      rw [value_of_endQuoted h] at hl
      exact absurd hl (getLast?_ne_of_readQuoted read)
  · exact h

/-- A parameter with a quote in it is not written bare. -/
theorem needsQuotes_of_quote_mem {value : List Char} (h : '"' ∈ value) :
    needsQuotes value = true := by
  rw [← Bool.not_eq_false, needsQuotes_eq_false_iff]
  rintro ⟨-, -, inside⟩
  exact (inside '"' h).2 rfl

/-- Of the parameters that are read, those lose their closing quote that hold a quote and end with a
backslash. -/
theorem closes_iff_of_readField {size : Nat} {text : List Char} {field : Field}
    (h : readField size text = .ok field) :
    Closes field.value ↔ ('"' ∈ field.value → field.value.getLast? ≠ some '\\') := by
  constructor
  · intro closes hq
    exact closes (needsQuotes_of_quote_mem hq)
  · intro hn needs hl
    obtain ⟨first, inside⟩ :=
      readBare_value (head?_skipSpaces_ne text) (readBare_of_getLast? h hl)
    have noQuote : '"' ∉ field.value := fun hq => hn hq hl
    have bare : needsQuotes field.value = false := by
      rw [needsQuotes_eq_false_iff]
      refine ⟨first, by simp [hl], fun c hc => ⟨inside c hc, ?_⟩⟩
      rintro rfl
      exact noQuote hc
    rw [bare] at needs
    cases needs

end ServiceProbe.ItemKey
