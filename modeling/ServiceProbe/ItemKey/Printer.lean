import ServiceProbe.ItemKey

/-!
# Writing item keys

The text of a key is its name, followed by its parameters in brackets if it has any. A
parameter is quoted if its bare spelling would be read as something else: it starts or ends
with a space, or holds a separator or a quote. Inside quotes only the quote is escaped.
-/

namespace ServiceProbe.ItemKey

/-- Whether a parameter cannot be written bare. -/
def needsQuotes (value : List Char) : Bool :=
  value.head? == some ' ' || value.getLast? == some ' ' ||
    value.any fun c => isSeparator c || c == '"'

/-- A parameter with a backslash before each quote. -/
def escape (value : List Char) : List Char :=
  value.flatMap fun c => if c = '"' then ['\\', '"'] else [c]

/-- A parameter in quotes. -/
def quote (value : List Char) : List Char := '"' :: escape value ++ ['"']

/-- A parameter as it stands in a key. -/
def writeField (value : List Char) : List Char := if needsQuotes value then quote value else value

/-- The bracketed list of some parameters. -/
def writeFields (values : List (List Char)) : List Char :=
  '[' :: List.intercalate [','] (values.map writeField) ++ [']']

/-- The text of a key. -/
def text (key : ItemKey) : String :=
  if key.params.isEmpty then key.name
  else key.name ++ String.ofList (writeFields (key.params.map String.toList))

end ServiceProbe.ItemKey
