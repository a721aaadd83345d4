import ServiceProbe.Log.Filter
import ServiceProbe.Terminal

/-!
# The log

How notices are written. In a written notice the characters that would steer a terminal are
shown by their codes.
-/

namespace ServiceProbe

/-- The mark at the start of a written notice and its style. -/
def Level.mark : Level → String × Style
  | .error => ("[-]", .boldRed)
  | .warn => ("[*]", .boldYellow)
  | .info => ("[+]", .boldGreen)
  | .debug => ("[?]", .blue)
  | .trace => ("[ ]", .dimmed)

namespace Log

/-- A character of a written notice. -/
def shown (c : Char) : List Char :=
  if c = '\x07' ∨ c = '\x08' ∨ c = '\x0c' ∨ c = '\x1b' ∨ c = '\x7f' then
    ['\\', 'x'] ++ List.replicate (2 - (Nat.toDigits 16 c.toNat).length) '0' ++
      Nat.toDigits 16 c.toNat
  else if 0x80 ≤ c.toNat ∧ c.toNat ≤ 0x9F then Quoted.byCode c
  else [c]

/-- A named value of a written notice. -/
def field (colour : Bool) (name value : String) : String :=
  " " ++ Terminal.paint colour .italic name ++ Terminal.paint colour .dimmed "=" ++ value

/-- A written notice: the mark of its level, for the lower levels its source, its text and its
named values. -/
def line (colour : Bool) (notice : Notice) : String :=
  let (mark, style) := notice.level.mark
  let source :=
    if Level.debug.rank ≤ notice.level.rank then
      Terminal.paint colour .dimmed notice.source ++ " "
    else ""
  Terminal.paint colour style mark ++ " " ++ source ++
    String.ofList (notice.message.toList.flatMap shown) ++
    String.join (notice.fields.map fun entry => field colour entry.1 entry.2) ++ "\n"

/-- The notices that are let through, written one per line. -/
def write (colour : Bool) (filter : Filter) (notices : List Notice) : String :=
  String.join ((notices.filter (enables filter)).map (line colour))

end Log

end ServiceProbe
