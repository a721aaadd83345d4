import ServiceProbe.Batch
import ServiceProbe.CommandLine
import ServiceProbe.Log

/-!
# The program

What the program writes and with which code it exits, as a function of its command line, the
environment and what the network answers. A check that finds its service down is a success of
the program; it fails only where settings or parameters are faulty.
-/

namespace ServiceProbe

/-- What a run of the program leaves behind. -/
structure Output where
  /-- The exit code. -/
  exitCode : Nat
  /-- The standard output. -/
  out : String
  /-- The standard error. -/
  err : String
  /-- What was sent over each connection that was made. -/
  sent : List (List UInt8) := []
  deriving DecidableEq

/-- What surrounds a run of the program. -/
structure Environment where
  /-- Whether the terminal shows colours. -/
  colour : Bool
  /-- The log filter that is asked for, in place of the degree of verbosity. -/
  logFilter : Option String
  /-- What the network answers to the check at each place. -/
  network : Nat → Network
  /-- How long the check at each place is measured to take. -/
  elapsed : Nat → Duration

namespace Program

/-- How the program is called. -/
def usage : String := "Usage: svcprobe [OPTIONS] <COMMAND>\n"

/-- The width of the names in the list of metrics. -/
def nameColumn : Nat := 24

/-- The list of metrics. -/
def listing (colour : Bool) : String :=
  Terminal.paint colour .brightGreen s!"⟦ {Metric.family} METRICS ⟧" ++ "\n" ++
    String.join (Metric.all.map fun metric =>
      "  " ++ Terminal.paint colour .bold (Terminal.column nameColumn metric.name) ++
        metric.description ++ "\n")

/-- The report on an error and its cause. -/
def failure (message : String) (cause : Option String) : String :=
  match cause with
  | none => s!"Error: {message}\n"
  | some cause => s!"Error: {message}\n\nCaused by:\n    {cause}\n"

/-- The monitor of the check at a place. -/
def monitor (environment : Environment) (settings : Settings) (place : Nat) : Monitor :=
  ⟨settings, environment.network place, environment.elapsed place⟩

/-- The filter of the log; one that cannot be read counts as none. -/
def filter (environment : Environment) (verbosity : Nat) : Log.Filter :=
  (environment.logFilter.bind Log.filter?).getD (Log.ofVerbosity verbosity)

/-- Evaluate a single metric. -/
def single (environment : Environment) (filter : Log.Filter) (monitor : Monitor)
    (metric : Metric) (params : List String) : Output :=
  let check := monitor.evaluate metric.name params
  let log := Log.write environment.colour filter check.log
  match check.answer with
  | .ok reading => ⟨0, reading.text ++ "\n", log, check.sent⟩
  | .error error =>
    ⟨1, "", log ++ failure s!"cannot evaluate {metric.name}" (some error.message), check.sent⟩

/-- Evaluate a batch of keys. -/
def batch (environment : Environment) (filter : Log.Filter) (monitor : Nat → Monitor)
    (keys : List String) : Output :=
  let finished := Batch.evaluate monitor keys
  { exitCode := 0
    out := Batch.report environment.colour finished
    err := Log.write environment.colour filter (finished.flatMap (·.check.log))
    sent := finished.flatMap (·.check.sent) }

/-- Carry out an invocation. -/
def execute (environment : Environment) (invocation : Invocation) : Output :=
  match Settings.checked invocation.timeout invocation.agentName with
  | .error error => ⟨1, "", failure error.message none, []⟩
  | .ok settings =>
    let filter := filter environment invocation.verbosity
    let monitor := monitor environment settings
    match invocation.command with
    | .metrics => ⟨0, listing environment.colour, "", []⟩
    | .get keys => batch environment filter monitor keys
    | .single metric params => single environment filter (monitor 0) metric params

/-- Run the program on the words of its command line. -/
def run (environment : Environment) (words : List String) : Output :=
  match CommandLine.parse words with
  | .ok invocation => execute environment invocation
  | .error .help => ⟨0, usage, "", []⟩
  | .error .misuse => ⟨2, "", usage, []⟩

end Program

end ServiceProbe
