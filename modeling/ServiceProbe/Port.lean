import ServiceProbe.Text.Decimal

/-!
# Ports

A port is a number of 16 bits. A port token spells it in decimal or names one of a fixed table
of well-known services, so that a token means the same on every machine. A token of digits is
never taken for a name.
-/

namespace ServiceProbe

/-- A TCP port number. -/
abbrev Port := Fin 65536

namespace Port

/-- The well-known services and their ports. -/
def wellKnown : List (String × Port) :=
  [("ftp", 21), ("ssh", 22), ("smtp", 25), ("http", 80), ("pop", 110), ("nntp", 119),
    ("imap", 143)]

/-- The character codes of a token. -/
def codes (token : String) : List Nat := token.toList.map Char.toNat

/-- The port that a decimal numeral spells. -/
def ofNumeral? (token : String) : Option Port := Decimal.below? 65536 (codes token)

/-- A name with its ASCII capitals made small. -/
def foldCase (name : String) : List Char := name.toList.map Char.toLower

/-- The port of a well-known service, whose name may be written in capitals. -/
def ofService? (name : String) : Option Port :=
  (wellKnown.find? fun entry => foldCase entry.1 == foldCase name).map (·.2)

/-- The port that a token stands for: a numeral spells its own, anything else is a name. -/
def ofToken? (token : String) : Option Port :=
  if Decimal.isNumeral (codes token) then ofNumeral? token else ofService? token

end Port

end ServiceProbe
