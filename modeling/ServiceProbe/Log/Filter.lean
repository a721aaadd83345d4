import ServiceProbe.Notice
import ServiceProbe.Text.Alphanumeric
import ServiceProbe.Text.Blank

/-!
# Log filters

Which notices are written. A filter is a list of directives. A directive names a rank, and what
it is about: the sources that begin with a text, and in brackets a stretch of work or a named
value. Of the directives that cover a notice the most specific one decides, and without any the
notice is dropped. Checks are not divided into stretches of work, so a directive bound to one,
or to what a named value was in it, covers no notice.
-/

namespace ServiceProbe

/-- How far down the scale a level lies; the most important one has rank one. -/
def Level.rank : Level → Nat
  | .error => 1
  | .warn => 2
  | .info => 3
  | .debug => 4
  | .trace => 5

namespace Log

/-- A named value that is asked for. -/
structure Field where
  /-- Its name. -/
  name : String
  /-- What it has to be. -/
  value : Option String
  deriving DecidableEq

/-- What is let through of the notices that it covers. -/
structure Directive where
  /-- How the covered sources begin; every source begins with the empty text. -/
  source : String
  /-- The stretch of work that it is bound to. -/
  span : Option String
  /-- The named value that is asked for. -/
  field : Option Field
  /-- The greatest rank that is let through; nothing has rank zero. -/
  rank : Nat
  deriving DecidableEq

/-- The directive about all notices. -/
def Directive.upTo (level : Level) : Directive := ⟨"", none, none, level.rank⟩

/-- Directives by which notices are let through. -/
abbrev Filter := List Directive

/-- The ranks that can be named, with their names. -/
def rankNames : List (String × Nat) :=
  [("off", 0), ("error", 1), ("warn", 2), ("info", 3), ("debug", 4), ("trace", 5)]

/-- The rank that a numeral names. A plus sign may stand before it. -/
def numberedRank? (text : List Char) : Option Nat :=
  let digits := match text with
    | '+' :: digits => digits
    | digits => digits
  (Decimal.below? 6 (digits.map Char.toNat)).map (·.val)

/-- The rank that a text names, as a number or as a word in any case. -/
def rank? (text : List Char) : Option Nat :=
  match numberedRank? text with
  | some rank => some rank
  | none => (rankNames.find? fun entry => entry.1 == (String.ofList text).toLower).map (·.2)

/-- The rank that stands after the equals sign of a directive. Nothing there lets all through. -/
def rankAfterEquals? (text : List Char) : Option Nat :=
  if text.isEmpty then some Level.trace.rank else rank? text

/-- The named value that a text asks for, alone or with what it has to be. -/
def field? (text : List Char) : Option Field :=
  let name := String.ofList (text.takeWhile (· != '='))
  match text.dropWhile (· != '=') with
  | [] => if text.isEmpty then none else some ⟨name, none⟩
  | _ :: value => some ⟨name, some (String.ofList (value.takeWhile (· != '=')))⟩

/-- What stands in brackets, read from behind the opening one, and the text behind the closing
one: the name of a stretch of work, a named value in braces, or one after the other. -/
def bracketed? (text : List Char) : Option (Option String × Option Field × List Char) :=
  let name := text.takeWhile fun c => c != ']' && c != '\x7B'
  let span := String.ofList name
  match text.drop name.length with
  | ']' :: rest => some (some span, none, rest)
  | _ :: braced =>
    match braced.dropWhile (· != '\x7D') with
    | _ :: ']' :: rest =>
      (field? (braced.takeWhile (· != '\x7D'))).map fun field =>
        (if name.isEmpty then none else some span, some field, rest)
    | _ => none
  | [] => none

/-- Whether a directive may begin with a character. -/
def isInitial (c : Char) : Bool :=
  c == '[' || c == '-' || c == ':' || c == '_' || Alphanumeric.isAlphanumeric c

/-- The directive that a text spells: a rank for all sources, or a source, what stands in
brackets, and after an equals sign a rank, where what is left out does not restrict. Blanks in
front are part of the source, and then no rank may follow. -/
def directive? (text : List Char) : Option Directive :=
  let source := text.takeWhile fun c => c != '=' && c != '['
  let name := String.ofList source
  let ranked? (tail : List Char) : Option Nat :=
    if text.head?.any Blank.isBlank then none else rankAfterEquals? tail
  if (text.dropWhile Blank.isBlank).head?.any isInitial then
    match text.drop source.length with
    | [] => some (match rank? text with
      | some rank => ⟨"", none, none, rank⟩
      | none => ⟨name, none, none, Level.trace.rank⟩)
    | '=' :: tail => (ranked? tail).map (⟨name, none, none, ·⟩)
    | _ :: inside =>
      match bracketed? inside with
      | none => none
      | some (span, field, '=' :: tail) => (ranked? tail).map (⟨name, span, field, ·⟩)
      | some (span, field, tail) =>
        if tail.all Blank.isBlank then some ⟨name, span, field, Level.trace.rank⟩ else none
  else none

/-- The filter that a text spells, directives separated by commas. An empty one lets through
failures only; a faulty directive spoils the whole. -/
def filter? (text : String) : Option Filter :=
  let parts := (text.splitOn ",").filter fun part => !part.isEmpty
  if parts.isEmpty then some [.upTo .error] else parts.mapM fun part => directive? part.toList

/-- The filter for a degree of verbosity. -/
def ofVerbosity : Nat → Filter
  | 0 => [.upTo .warn]
  | 1 => [.upTo .debug]
  | _ => [.upTo .trace]

namespace Directive

/-- The name of the value that is asked for; the empty text if none is. -/
def fieldName (directive : Directive) : String :=
  match directive.field with
  | none => ""
  | some field => field.name

/-- Whether a directive is about a notice. The text of a notice counts as a named value. -/
def covers (directive : Directive) (notice : Notice) : Bool :=
  directive.span.isNone && directive.source.toList.isPrefixOf notice.source.toList &&
    match directive.field with
    | none => true
    | some ⟨name, value⟩ =>
      value.isNone && (name == "message" || notice.fields.any fun entry => entry.1 == name)

/-- Whether a directive gives way to a later one that covers the same notice: to one with a
longer source, or with the same source and a name that does not come before its own. Every name
comes after none. -/
def yieldsTo (directive later : Directive) : Bool :=
  directive.source.length < later.source.length ||
    directive.source.length == later.source.length &&
      !decide (later.fieldName < directive.fieldName)

end Directive

/-- The directive that decides about a notice. -/
def deciding? (filter : Filter) (notice : Notice) : Option Directive :=
  (filter.filter (·.covers notice)).foldl (fun best next =>
    match best with
    | none => some next
    | some best => if best.yieldsTo next then some next else some best) none

/-- Whether a notice is let through. -/
def enables (filter : Filter) (notice : Notice) : Bool :=
  match deciding? filter notice with
  | none => false
  | some directive => notice.level.rank ≤ directive.rank

end Log

end ServiceProbe
