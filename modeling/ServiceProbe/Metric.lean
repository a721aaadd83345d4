import ServiceProbe.Check
import ServiceProbe.Elapsed

/-!
# Metrics

The metrics that can be asked for, what their parameters are and what they are answered with.
Parameters are judged before anything is dialled. The timed check is zero for a service that is
down and the elapsed seconds, which are never zero, for one that is up.
-/

namespace ServiceProbe

/-- A metric. -/
inductive Metric where
  /-- Whether a port accepts connections. -/
  | port
  /-- Whether a service is up. -/
  | service
  /-- How long it took to find a service up. -/
  | servicePerf
  deriving DecidableEq

/-- The value of a metric. -/
inductive Reading where
  /-- A number without fraction. -/
  | count (value : Nat)
  /-- A number of seconds. -/
  | seconds (value : Binary64)
  deriving DecidableEq

/-- The text of a reading; seconds have six decimals. -/
def Reading.text : Reading → String
  | count value => String.ofList (Decimal.digits value)
  | seconds value => value.fixed Elapsed.places

/-- The reading of a yes or no. -/
def Reading.ofBool (yes : Bool) : Reading := .count (if yes then 1 else 0)

namespace Metric

/-- Every metric, in the order in which they are listed. -/
def all : List Metric := [.port, .service, .servicePerf]

/-- The name of the whole family. -/
def family : String := "TCP"

/-- The name by which keys ask for a metric. -/
def name : Metric → String
  | port => "net.tcp.port"
  | service => "net.tcp.service"
  | servicePerf => "net.tcp.service.perf"

/-- What a metric tells, in one line. -/
def description : Metric → String
  | port => "Checks if it is possible to make TCP connection to specified port."
  | service => "Checks if service is running and accepting TCP connections."
  | servicePerf => "Checks performance of TCP service."

/-- The metric that a key is evaluated as. -/
def ofName? : String → Option Metric
  | "net.tcp.port" => some .port
  | "net.tcp.service" => some .service
  | "net.tcp.service.perf" => some .servicePerf
  | _ => none

/-- Whether a metric of this name is listed. -/
def supports (name : String) : Bool := all.any fun metric => metric.name == name

end Metric

/-- What metrics are evaluated with. -/
structure Monitor where
  /-- The configuration. -/
  settings : Settings
  /-- The network that is dialled. -/
  network : Network
  /-- The time that a check is measured to take, should it find its service up. -/
  elapsed : Duration

namespace Monitor

/-- The port check: an address, which may be empty, and a port. -/
def checkPort (monitor : Monitor) (params : List String) : Check (Except ParamError Bool) :=
  match params with
  | [address, port] => portOpen monitor.network address port
  | _ :: _ :: _ => { answer := .error .tooMany }
  | _ => { answer := .error .invalidSecond }

/-- The service check: a protocol, an address and a port. -/
def checkService (monitor : Monitor) (params : List String) : Check (Except ParamError Bool) :=
  match Target.ofParams params with
  | .error error => { answer := .error error }
  | .ok target => (target.probe monitor.settings monitor.network).map .ok

/-- The reading of a timed check. -/
def timed (monitor : Monitor) (up : Bool) : Reading :=
  .seconds (if up then Elapsed.reported monitor.elapsed else .ofUnits 0)

/-- Evaluate a metric. -/
def read (monitor : Monitor) (params : List String) : Metric → Check (Except ParamError Reading)
  | .port => (monitor.checkPort params).map (·.map .ofBool)
  | .service => (monitor.checkService params).map (·.map .ofBool)
  | .servicePerf => (monitor.checkService params).map (·.map monitor.timed)

/-- Evaluate the metric of a name. -/
def evaluate (monitor : Monitor) (name : String) (params : List String) :
    Check (Except ParamError Reading) :=
  match Metric.ofName? name with
  | none => { answer := .error .unsupportedMetric }
  | some metric => monitor.read params metric

end Monitor

end ServiceProbe
