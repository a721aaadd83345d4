import ServiceProbe.Text.Printable

/-!
# Quoted text

The form in which messages show a character or a text whose content is not known in advance:
between quotes, with the usual escapes for the quote itself, the backslash and common controls,
and the code in hexadecimal for every other character that is not printable.
-/

namespace ServiceProbe.Quoted

/-- The quote around a character. -/
def single : Char := '\x27'

/-- The quote around a text. -/
def double : Char := '\x22'

/-- The code of a character in lowercase hexadecimal between braces. -/
def byCode (c : Char) : List Char :=
  ['\\', 'u', '\x7B'] ++ Nat.toDigits 16 c.toNat ++ ['\x7D']

/-- One character between the given quotes. Only the quote in use is escaped. -/
def escape (quote c : Char) : List Char :=
  if c = '\x00' then ['\\', '0']
  else if c = '\t' then ['\\', 't']
  else if c = '\r' then ['\\', 'r']
  else if c = '\n' then ['\\', 'n']
  else if c = '\\' ∨ c = quote then ['\\', c]
  else if Printable.isPrintable c then [c]
  else byCode c

/-- A character in single quotes. -/
def character (c : Char) : String := String.ofList (single :: escape single c ++ [single])

/-- A text in double quotes. -/
def text (s : String) : String :=
  String.ofList (double :: s.toList.flatMap (escape double) ++ [double])

end ServiceProbe.Quoted
