import ServiceProbe.Metric

/-!
# Commands

What the program can be asked to do: evaluate one metric, evaluate a batch of item keys, or
list the metrics. The commands for single checks lay out the parameters of their metric, with an
empty one for whatever was left out.
-/

namespace ServiceProbe

/-- What a command line asks for. -/
inductive Command where
  /-- Evaluate one metric. -/
  | single (metric : Metric) (params : List String)
  /-- Evaluate item keys. -/
  | get (keys : List String)
  /-- List the metrics. -/
  | metrics
  deriving DecidableEq

namespace Command

/-- Check a port. An address that was left out is an empty parameter. -/
def checkPort (port : String) (address : Option String) : Command :=
  .single .port [address.getD "", port]

/-- Check a service, by either of the service metrics. What was left out is an empty
parameter. -/
def checkService (metric : Metric) (service : String) (address port : Option String) : Command :=
  .single metric [service, address.getD "", port.getD ""]

end Command

/-- A command line that was understood. -/
structure Invocation where
  /-- What it asks for. -/
  command : Command
  /-- The timeout in seconds, not yet judged. -/
  timeout : Nat
  /-- The agent name, not yet judged. -/
  agentName : String
  /-- How often more log output was asked for. -/
  verbosity : Nat
  deriving DecidableEq

end ServiceProbe
