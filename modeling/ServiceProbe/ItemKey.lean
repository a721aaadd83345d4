import ServiceProbe.Text.Quoted

/-!
# Item keys

A metric is asked for by an item key such as `net.tcp.service[ssh,,2222]`: a name, alone or
with a bracketed list of parameters. This module holds the keys and the ways in which a text
fails to be one; reading and writing stand beside it.
-/

namespace ServiceProbe

/-- The name of a metric and the parameters it is asked for with. -/
structure ItemKey where
  /-- The name before the bracket. -/
  name : String
  /-- The parameters in order; none when the key has no brackets. -/
  params : List String
  deriving DecidableEq

/-- Why a text is no item key. Positions count bytes of UTF-8 from the start of the key. -/
inductive KeyError where
  /-- There is no name. -/
  | emptyName
  /-- A character of the name is not allowed there. -/
  | invalidName (found : Char) (position : Nat)
  /-- A quoted parameter has no closing quote. -/
  | unterminatedQuote
  /-- A quoted parameter is followed by neither a comma nor the closing bracket. -/
  | afterQuote (found : Char) (position : Nat)
  /-- The parameters end without a closing bracket. -/
  | missingBracket
  /-- Something follows the closing bracket. -/
  | trailingData
  deriving DecidableEq

/-- The text of a key error. -/
def KeyError.message : KeyError → String
  | emptyName => "empty item key"
  | invalidName found position =>
    s!"invalid character {Quoted.character found} in key name at position {position}"
  | unterminatedQuote => "unterminated quoted parameter"
  | afterQuote found position =>
    s!"unexpected character {Quoted.character found} after quoted parameter at position {position}"
  | missingBracket => "missing closing bracket"
  | trailingData => "unexpected trailing data after closing bracket"

namespace ItemKey

/-- Whether a character may stand in the name of a key. -/
def isNameChar (c : Char) : Bool := c.isAlphanum || c == '.' || c == '_' || c == '-'

/-- Whether a character ends a parameter: the comma before the next one or the closing
bracket. -/
def isSeparator (c : Char) : Bool := c == ',' || c == ']'

end ItemKey

end ServiceProbe
