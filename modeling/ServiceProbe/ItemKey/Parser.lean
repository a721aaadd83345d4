import ServiceProbe.ItemKey
import ServiceProbe.Text.Utf8

/-!
# Reading item keys

The name runs to the first opening bracket. Each parameter after it is bare, up to the next
separator and without its trailing spaces, or quoted, where separators are text and a backslash
directly before a quote stands for that quote. Spaces before a parameter and after a closing
quote are skipped. The first closing bracket outside quotes has to end the key.

Every function reads from the front of a text and hands on what follows, so a position is the
width of the whole key less the width of what is left of it.
-/

namespace ServiceProbe.ItemKey

/-- What follows the spaces at the front of a text. -/
def skipSpaces (text : List Char) : List Char := text.dropWhile (· == ' ')

/-- A text without the spaces at its end. -/
def trimEnd : List Char → List Char
  | [] => []
  | c :: rest =>
    match trimEnd rest with
    | [] => if c = ' ' then [] else [c]
    | kept => c :: kept

/-- One parameter, whether it was the last one, and what follows its separator. -/
structure Field where
  /-- The value of the parameter. -/
  value : List Char
  /-- Whether the closing bracket ended it. -/
  last : Bool
  /-- What follows the separator. -/
  rest : List Char

/-- The value of a quoted parameter and what follows the closing quote, for a text that starts
behind the opening one; nothing if it is never closed. -/
def readQuoted : List Char → Option (List Char × List Char)
  | [] => none
  | '\\' :: '"' :: rest => (readQuoted rest).map fun read => ('"' :: read.1, read.2)
  | '"' :: rest => some ([], rest)
  | c :: rest => (readQuoted rest).map fun read => (c :: read.1, read.2)

/-- The separator after a quoted parameter, in a key of `size` bytes. -/
def endQuoted (size : Nat) (value text : List Char) : Except KeyError Field :=
  match text with
  | [] => .error .missingBracket
  | c :: rest =>
    if isSeparator c then .ok ⟨value, c == ']', rest⟩
    else .error (.afterQuote c (size - Utf8.width text))

/-- A bare parameter and its separator. -/
def readBare (text : List Char) : Except KeyError Field :=
  match text.dropWhile (!isSeparator ·) with
  | [] => .error .missingBracket
  | c :: rest => .ok ⟨trimEnd (text.takeWhile (!isSeparator ·)), c == ']', rest⟩

/-- A parameter of either kind and its separator, in a key of `size` bytes. -/
def readField (size : Nat) (text : List Char) : Except KeyError Field :=
  match skipSpaces text with
  | '"' :: quoted =>
    match readQuoted quoted with
    | none => .error .unterminatedQuote
    | some (value, rest) => endQuoted size value (skipSpaces rest)
  | bare => readBare bare

/-- Skipping spaces leaves no more than there was. -/
theorem length_skipSpaces_le (text : List Char) : (skipSpaces text).length ≤ text.length :=
  (List.dropWhile_sublist _).length_le

/-- Reading a quoted parameter uses up its closing quote at least. -/
theorem length_readQuoted_lt {text value rest : List Char}
    (h : readQuoted text = some (value, rest)) : rest.length < text.length := by
  fun_induction readQuoted text generalizing value with
  | case1 => simp at h
  | case2 tail ih =>
    simp only [Option.map_eq_some_iff, Prod.mk.injEq, Prod.exists] at h
    obtain ⟨_, _, found, -, rfl⟩ := h
    have shorter := ih found
    simp only [List.length_cons]
    omega
  | case3 tail =>
    obtain ⟨-, rfl⟩ := Prod.ext_iff.1 (Option.some.inj h)
    simp
  | case4 c tail _ _ ih =>
    simp only [Option.map_eq_some_iff, Prod.mk.injEq, Prod.exists] at h
    obtain ⟨_, _, found, -, rfl⟩ := h
    have shorter := ih found
    simp only [List.length_cons]
    omega

/-- The separator after a quoted parameter is used up. -/
theorem length_endQuoted_lt {size : Nat} {value text : List Char} {field : Field}
    (h : endQuoted size value text = .ok field) : field.rest.length < text.length := by
  cases text with
  | nil => simp [endQuoted] at h
  | cons c rest =>
    simp only [endQuoted] at h
    split at h
    · cases h; simp
    · cases h

/-- Reading a bare parameter uses up its separator at least. -/
theorem length_readBare_lt {text : List Char} {field : Field}
    (h : readBare text = .ok field) : field.rest.length < text.length := by
  have shorter := (List.dropWhile_sublist (!isSeparator ·) (l := text)).length_le
  simp only [readBare] at h
  split at h
  · cases h
  · rename_i c rest left
    cases h
    rw [left] at shorter
    exact shorter

/-- Reading a parameter uses up its separator at least. -/
theorem length_readField_lt {size : Nat} {text : List Char} {field : Field}
    (h : readField size text = .ok field) : field.rest.length < text.length := by
  have skipped := length_skipSpaces_le text
  unfold readField at h
  split at h
  · rename_i quoted start
    rw [start] at skipped
    split at h
    · cases h
    · rename_i value rest read
      have one := length_readQuoted_lt read
      have two := length_endQuoted_lt h
      have three := length_skipSpaces_le rest
      simp only [List.length_cons] at skipped
      omega
  · exact Nat.lt_of_lt_of_le (length_readBare_lt h) skipped

/-- The parameters up to the closing bracket and what follows it, in a key of `size` bytes. -/
def readFields (size : Nat) (text : List Char) :
    Except KeyError (List (List Char) × List Char) :=
  match _ : readField size text with
  | .error e => .error e
  | .ok field =>
    if field.last then .ok ([field.value], field.rest)
    else
      match readFields size field.rest with
      | .error e => .error e
      | .ok (values, rest) => .ok (field.value :: values, rest)
termination_by text.length
decreasing_by exact length_readField_lt ‹_›

/-- The name of a key, checked: there has to be one, and the first character that does not
belong in it is reported. -/
def checkName (name : List Char) : Except KeyError Unit :=
  if name.isEmpty then .error .emptyName
  else
    match name.dropWhile isNameChar with
    | [] => .ok ()
    | c :: _ => .error (.invalidName c (Utf8.width (name.takeWhile isNameChar)))

/-- The key that a text spells. -/
def parse (text : String) : Except KeyError ItemKey :=
  let characters := text.toList
  let name := characters.takeWhile (· != '[')
  match checkName name with
  | .error e => .error e
  | .ok () =>
    match characters.dropWhile (· != '[') with
    | [] => .ok ⟨String.ofList name, []⟩
    | _ :: list =>
      match readFields (Utf8.width characters) list with
      | .error e => .error e
      | .ok (values, []) => .ok ⟨String.ofList name, values.map String.ofList⟩
      | .ok (_, _ :: _) => .error .trailingData

end ServiceProbe.ItemKey
