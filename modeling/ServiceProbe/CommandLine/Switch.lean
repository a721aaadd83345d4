import ServiceProbe.Text.Decimal

/-!
# Subcommands and switches

The words of a command line: the subcommands, which take a number of operands, and the
switches, some of which carry a value. Some switches belong to all subcommands, the others only
to those that have a use for them.
-/

namespace ServiceProbe.CommandLine

/-- Why a command line is not carried out. -/
inductive Refusal where
  /-- It asks for help. -/
  | help
  /-- It is not well formed. -/
  | misuse
  deriving DecidableEq

/-- The first word of a command. -/
inductive Subcommand where
  /-- Check a port. -/
  | port
  /-- Check a service. -/
  | service
  /-- Time the check of a service. -/
  | perf
  /-- Evaluate item keys. -/
  | get
  /-- List the metrics. -/
  | metrics
  /-- Explain a subcommand. -/
  | help
  deriving DecidableEq

/-- The subcommand of a word, which may be an abbreviation. -/
def Subcommand.ofWord? : String → Option Subcommand
  | "port" | "p" => some .port
  | "service" | "s" => some .service
  | "perf" => some .perf
  | "get" | "g" => some .get
  | "metrics" | "m" => some .metrics
  | "help" => some .help
  | _ => none

/-- Whether a subcommand takes one more operand after `count` of them. -/
def Subcommand.takesOperand (subcommand : Subcommand) (count : Nat) : Bool :=
  match subcommand with
  | .port | .service | .perf | .help => count < 1
  | .get => true
  | .metrics => false

/-- A switch. -/
inductive Switch where
  /-- The timeout. -/
  | timeout
  /-- The agent name. -/
  | agentName
  /-- More log output. -/
  | verbose
  /-- The host to connect to. -/
  | address
  /-- The port of a service. -/
  | port
  /-- An explanation. -/
  | help
  deriving DecidableEq

namespace Switch

/-- Whether a switch can be given with a subcommand, or before it where there is none yet. -/
def allowed (subcommand : Option Subcommand) : Switch → Bool
  | timeout | agentName | verbose | help => true
  | address => subcommand == some .port || subcommand == some .service || subcommand == some .perf
  | port => subcommand == some .service || subcommand == some .perf

/-- The switch of a letter. -/
def ofLetter? : Char → Option Switch
  | 't' => some timeout
  | 'v' => some verbose
  | 'a' => some address
  | 'p' => some port
  | 'h' => some help
  | _ => none

/-- The switch of a long name. -/
def ofName? : String → Option Switch
  | "timeout" => some timeout
  | "agent-name" => some agentName
  | "verbose" => some verbose
  | "address" => some address
  | "port" => some port
  | "help" => some help
  | _ => none

end Switch

/-- The switches found on one side of the subcommand. -/
structure Switches where
  /-- The timeout in seconds. -/
  timeout : Option Nat := none
  /-- The agent name. -/
  agentName : Option String := none
  /-- How often more log output was asked for, if at all. -/
  verbosity : Option Nat := none
  /-- The host to connect to. -/
  address : Option String := none
  /-- The port of a service. -/
  port : Option String := none
  deriving DecidableEq

/-- The number of 64 bits that a word spells, which may have a plus sign. -/
def number? (word : String) : Option Nat :=
  let digits := match word.toList with
    | '+' :: digits => digits
    | digits => digits
  (Decimal.below? UInt64.size (digits.map Char.toNat)).map (·.val)

/-- A value that was not given before. -/
def once {α : Type} (before : Option α) (value : α) : Except Refusal (Option α) :=
  if before.isSome then .error .misuse else .ok (some value)

/-- The switches with one more that carries a value. -/
def Switches.give (switches : Switches) (switch : Switch) (value : String) :
    Except Refusal Switches :=
  match switch with
  | .timeout =>
    match number? value with
    | none => .error .misuse
    | some seconds => (once switches.timeout seconds).map ({ switches with timeout := · })
  | .agentName => (once switches.agentName value).map ({ switches with agentName := · })
  | .address => (once switches.address value).map ({ switches with address := · })
  | .port => (once switches.port value).map ({ switches with port := · })
  | .verbose | .help => .error .misuse

end ServiceProbe.CommandLine
