import ServiceProbe.Command
import ServiceProbe.CommandLine.Switch

/-!
# The command line

A command line is a subcommand with its operands, and switches before or after it. The words
are read from left to right; the first one that does not fit, or that asks for help, ends the
reading. A switch for all subcommands that is given on both sides counts where it stands behind
the subcommand.
-/

namespace ServiceProbe.CommandLine

/-- What was understood of the words so far. -/
structure Progress where
  /-- The switches before the subcommand. -/
  before : Switches := {}
  /-- The subcommand. -/
  subcommand : Option Subcommand := none
  /-- The switches since the subcommand. -/
  switches : Switches := {}
  /-- The operands. -/
  operands : List String := []
  /-- The switch that waits for its value. -/
  awaiting : Option Switch := none
  /-- Whether only operands can follow. -/
  operandsOnly : Bool := false
  deriving DecidableEq

namespace Progress

/-- Give a value to a switch. -/
def give (progress : Progress) (switch : Switch) (value : String) : Except Refusal Progress :=
  (progress.switches.give switch value).map ({ progress with switches := ·, awaiting := none })

/-- Count one more request for log output. -/
def louder (progress : Progress) : Progress :=
  let verbosity := some (progress.switches.verbosity.getD 0 + 1)
  { progress with switches := { progress.switches with verbosity } }

/-- Only a switch that the subcommand knows. -/
def known (progress : Progress) (switch : Option Switch) : Option Switch :=
  switch.filter (Switch.allowed progress.subcommand)

/-- Read a cluster of letters; one that takes a value takes the rest of the cluster. -/
def readLetters (progress : Progress) : List Char → Except Refusal Progress
  | [] => .ok progress
  | letter :: rest =>
    match progress.known (Switch.ofLetter? letter) with
    | none => .error .misuse
    | some .help => .error .help
    | some .verbose => progress.louder.readLetters rest
    | some switch =>
      match rest with
      | [] => .ok { progress with awaiting := some switch }
      | '=' :: value => progress.give switch (String.ofList value)
      | value => progress.give switch (String.ofList value)

/-- Read a long name, with its value where an equals sign follows. -/
def readName (progress : Progress) (word : List Char) : Except Refusal Progress :=
  let name := String.ofList (word.takeWhile (· != '='))
  match progress.known (Switch.ofName? name), word.dropWhile (· != '=') with
  | none, _ => .error .misuse
  | some .help, [] => .error .help
  | some .verbose, [] => .ok progress.louder
  | some switch, [] => .ok { progress with awaiting := some switch }
  | some switch, _ :: value => progress.give switch (String.ofList value)

/-- Read an operand; the first one is the subcommand. -/
def readOperand (progress : Progress) (word : String) : Except Refusal Progress :=
  match progress.subcommand with
  | none =>
    match Subcommand.ofWord? word with
    | none => .error .misuse
    | some subcommand =>
      if progress.operandsOnly then .error .misuse
      else
        .ok
          { before := progress.switches
            subcommand := some subcommand
            operandsOnly := subcommand == .help }
  | some subcommand =>
    if subcommand.takesOperand progress.operands.length then
      .ok { progress with operands := progress.operands ++ [word] }
    else .error .misuse

/-- Read one word. -/
def readWord (progress : Progress) (word : String) : Except Refusal Progress :=
  if progress.operandsOnly then progress.readOperand word
  else
    match progress.awaiting, word.toList with
    | none, ['-', '-'] => .ok { progress with operandsOnly := true }
    | none, '-' :: '-' :: name => progress.readName name
    | none, '-' :: letter :: rest => progress.readLetters (letter :: rest)
    | none, _ => progress.readOperand word
    | some _, '-' :: _ :: _ => .error .misuse
    | some switch, _ => progress.give switch word

/-- The command of a subcommand with its operands and switches. -/
def command (progress : Progress) : Except Refusal Command :=
  match progress.subcommand, progress.operands with
  | some .port, [port] => .ok (.checkPort port progress.switches.address)
  | some .service, [service] =>
    .ok (.checkService .service service progress.switches.address progress.switches.port)
  | some .perf, [service] =>
    .ok (.checkService .servicePerf service progress.switches.address progress.switches.port)
  | some .get, key :: keys => .ok (.get (key :: keys))
  | some .metrics, [] => .ok .metrics
  | some .help, [] => .error .help
  | some .help, [word] =>
    if (Subcommand.ofWord? word).isSome then .error .help else .error .misuse
  | _, _ => .error .misuse

/-- The invocation, once all words are read. -/
def finish (progress : Progress) : Except Refusal Invocation :=
  if progress.awaiting.isSome then .error .misuse
  else
    progress.command.map fun command =>
      { command
        timeout := (progress.switches.timeout.or progress.before.timeout).getD
          Settings.standard.timeout
        agentName := (progress.switches.agentName.or progress.before.agentName).getD
          Settings.standard.agentName
        verbosity := (progress.switches.verbosity.or progress.before.verbosity).getD 0 }

end Progress

/-- The invocation that the words of a command line spell. -/
def parse (words : List String) : Except Refusal Invocation :=
  match words.foldlM Progress.readWord {} with
  | .error refusal => .error refusal
  | .ok progress => progress.finish

end ServiceProbe.CommandLine
