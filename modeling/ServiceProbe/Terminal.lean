/-!
# Terminal text

Colours and columns. A painted text stands between two escape sequences, so that padding which
belongs to it is painted with it; without colours a text is left as it is.
-/

namespace ServiceProbe

/-- How a text is painted. -/
inductive Style where
  /-- Heavier. -/
  | bold
  /-- Fainter. -/
  | dimmed
  /-- Slanted. -/
  | italic
  /-- In red. -/
  | red
  /-- In green. -/
  | green
  /-- In blue. -/
  | blue
  /-- In light green. -/
  | brightGreen
  /-- Heavier and in red. -/
  | boldRed
  /-- Heavier and in green. -/
  | boldGreen
  /-- Heavier and in yellow. -/
  | boldYellow
  deriving DecidableEq

/-- The parameters of the escape sequence of a style. -/
def Style.code : Style → String
  | bold => "1"
  | dimmed => "2"
  | italic => "3"
  | red => "31"
  | green => "32"
  | blue => "34"
  | brightGreen => "92"
  | boldRed => "1;31"
  | boldGreen => "1;32"
  | boldYellow => "1;33"

namespace Terminal

/-- A text in a style, if colours are on. -/
def paint (colour : Bool) (style : Style) (text : String) : String :=
  if colour then s!"\x1b[{style.code}m{text}\x1b[0m" else text

/-- A text filled up with spaces to at least `width` characters. -/
def column (width : Nat) (text : String) : String :=
  text ++ String.ofList (List.replicate (width - text.length) ' ')

end Terminal

end ServiceProbe
