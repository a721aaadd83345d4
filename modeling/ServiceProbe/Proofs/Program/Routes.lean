import ServiceProbe.Proofs.Batch.Schedule
import ServiceProbe.Proofs.Metric.OmittedParams

/-!
# Two routes to a metric

A metric can be asked for by an item key and by a command of its own. The key has as many parameters
as were written, and the command lays out all that the metric takes, with an empty one for whatever
was left out. Both come to the same evaluation, so they report the same value or the same reason,
and the program sends the same bytes.
-/

namespace ServiceProbe

/-- The command that asks for a metric by itself. An operand that there is no parameter for is empty,
and an option is left out. -/
def Metric.command (params : List String) : Metric → Command
  | .port => .checkPort (params[1]?.getD "") params[0]?
  | .service => .checkService .service (params[0]?.getD "") params[1]? params[2]?
  | .servicePerf => .checkService .servicePerf (params[0]?.getD "") params[1]? params[2]?

/-- The parameters that a command lays out are the given ones, filled up with empty ones. -/
theorem Metric.command_eq_single {metric : Metric} {params : List String}
    (fits : params.length ≤ metric.maxParams) :
    metric.command params =
      .single metric (params ++ List.replicate (metric.maxParams - params.length) "") := by
  cases metric with
  | port =>
    rcases params with _ | ⟨address, _ | ⟨token, _ | ⟨extra, rest⟩⟩⟩
    · rfl
    · rfl
    · rfl
    · exact absurd fits (Nat.not_le.mpr (Nat.le_add_left 3 rest.length))
  | service =>
    rcases params with _ | ⟨tag, _ | ⟨address, _ | ⟨token, _ | ⟨extra, rest⟩⟩⟩⟩
    · rfl
    · rfl
    · rfl
    · rfl
    · exact absurd fits (Nat.not_le.mpr (Nat.le_add_left 4 rest.length))
  | servicePerf =>
    rcases params with _ | ⟨tag, _ | ⟨address, _ | ⟨token, _ | ⟨extra, rest⟩⟩⟩⟩
    · rfl
    · rfl
    · rfl
    · rfl
    · exact absurd fits (Nat.not_le.mpr (Nat.le_add_left 4 rest.length))

/-- The lines of a batch, one for each key. -/
def Batch.lines (colour : Bool) (monitor : Nat → Monitor) (keys : List String) : List String :=
  keys.zipIdx.map fun key => line colour (evaluated monitor key)

/-- The surroundings in which every check meets what the one at a place does. -/
def Environment.at (environment : Environment) (place : Nat) : Environment :=
  { environment with
    network := fun _ => environment.network place
    elapsed := fun _ => environment.elapsed place }

/-- A line that reports a key of a batch, and the output of a check of its metric by itself, which
report the same. -/
inductive SameReport (colour : Bool) (raw : String) (metric : Metric) : String → Output → Prop where
  /-- Both report this value. -/
  | value (text err : String) (sent : List (List UInt8)) :
    SameReport colour raw metric
      (Terminal.column Batch.resultColumn raw ++ s!"[t|{Terminal.paint colour .green text}]" ++ "\n")
      ⟨0, text ++ "\n", err, sent⟩
  /-- Both report this reason for there being none. -/
  | failure (message log : String) (sent : List (List UInt8)) :
    SameReport colour raw metric
      (Terminal.column Batch.resultColumn raw ++ s!"[m|{Terminal.paint colour .red message}]" ++ "\n")
      ⟨1, "", log ++ Program.failure s!"cannot evaluate {metric.name}" (some message), sent⟩

namespace Monitor

/-- A key of a metric that has a name of this family is evaluated as the metric is, and the errors
are told in words. -/
theorem evaluateKey_of_parse (monitor : Monitor) {raw : String} {key : ItemKey}
    (parsed : ItemKey.parse raw = .ok key) {metric : Metric} (named : key.name = metric.name) :
    (monitor.evaluateKey raw).answer =
        (monitor.evaluate metric.name key.params).answer.mapError ParamError.message ∧
      (monitor.evaluateKey raw).sent = (monitor.evaluate metric.name key.params).sent := by
  have supported : Metric.supports key.name = true := by
    rw [Metric.supports_eq_isSome, named, Metric.ofName?_name, Option.isSome_some]
  rw [← named, evaluateKey, parsed]
  simp only [supported, if_true]
  exact ⟨rfl, rfl⟩

/-- A check of a metric by itself reports what a key of the metric does, and sends the same. -/
theorem sameReport_single (monitor : Monitor) {raw : String} {key : ItemKey}
    (parsed : ItemKey.parse raw = .ok key) {metric : Metric} (named : key.name = metric.name)
    {params : List String}
    (same : monitor.evaluate metric.name params = monitor.evaluate metric.name key.params)
    (environment : Environment) (filter : Log.Filter) (place : Nat) :
    SameReport environment.colour raw metric
        (Batch.line environment.colour ⟨place, raw, monitor.evaluateKey raw⟩)
        (Program.single environment filter monitor metric params) ∧
      (monitor.evaluateKey raw).sent =
        (Program.single environment filter monitor metric params).sent := by
  obtain ⟨answer, sent⟩ := monitor.evaluateKey_of_parse parsed named
  cases outcome : (monitor.evaluate metric.name key.params).answer with
  | ok reading =>
    simp only [Batch.line, Program.single, same, answer, sent, outcome, Except.mapError]
    exact ⟨.value _ _ _, trivial⟩
  | error error =>
    simp only [Batch.line, Program.single, same, answer, sent, outcome, Except.mapError]
    exact ⟨.failure _ _ _, trivial⟩

end Monitor

namespace Metric

/-- What it means that a metric takes an empty parameter for one that was left out, along either
route. -/
structure TakesOmitted (metric : Metric) : Prop where
  /-- As long as there is room, an empty parameter behind the others changes nothing: not the answer,
  not what is dialled, and not what is sent or told. -/
  empty : ∀ (monitor : Monitor) (params : List String), params.length < metric.maxParams →
    monitor.evaluate metric.name (params ++ [""]) = monitor.evaluate metric.name params
  /-- Where there is no room, one more is too many, and nothing is dialled or sent. -/
  full : ∀ (monitor : Monitor) (params : List String) (param : String),
    params.length = metric.maxParams →
      monitor.evaluate metric.name (params ++ [param]) = { answer := .error .tooMany }
  /-- A batch of keys is reported by its lines. -/
  batch : ∀ (environment : Environment) (invocation : Invocation) (settings : Settings),
    Settings.checked invocation.timeout invocation.agentName = .ok settings →
      ∀ keys, (Program.execute environment { invocation with command := .get keys }).out =
        String.join (Batch.lines environment.colour (Program.monitor environment settings) keys)
  /-- The line of a key reports what the command of its metric does with the same parameters, under
  the same settings and on the same network; and what is sent for them is the same. -/
  line : ∀ (environment : Environment) (invocation : Invocation) (settings : Settings),
    Settings.checked invocation.timeout invocation.agentName = .ok settings →
      ∀ keys place raw key, keys[place]? = some raw → ItemKey.parse raw = .ok key →
        key.name = metric.name → key.params.length ≤ metric.maxParams →
          ∃ line,
            (Batch.lines environment.colour (Program.monitor environment settings) keys)[place]? =
              some line ∧
            SameReport environment.colour raw metric line
              (Program.execute (environment.at place)
                { invocation with command := metric.command key.params }) ∧
            ((Program.monitor environment settings place).evaluateKey raw).sent =
              (Program.execute (environment.at place)
                { invocation with command := metric.command key.params }).sent

/-- Every metric takes an empty parameter for one that was left out. -/
theorem takesOmitted (metric : Metric) : metric.TakesOmitted where
  empty := by
    intro monitor params room
    rw [monitor.evaluate_eq_read metric.ofName?_name, monitor.evaluate_eq_read metric.ofName?_name,
      monitor.read_append_empty room]
  full := by
    intro monitor params param whole
    have many : metric.maxParams < (params ++ [param]).length := by
      rw [List.length_append, List.length_singleton]
      omega
    rw [monitor.evaluate_eq_read metric.ofName?_name,
      Monitor.read_of_refused (Metric.target_of_many many)]
  batch := by
    intro environment invocation settings valid keys
    simp only [Program.execute, valid, Program.batch]
    exact Batch.report_of_perm (.refl _) environment.colour
  line := by
    intro environment invocation settings valid keys place raw key listed parsed named fits
    have filled : (Program.monitor environment settings place).evaluate metric.name
          (key.params ++ List.replicate (metric.maxParams - key.params.length) "") =
        (Program.monitor environment settings place).evaluate metric.name key.params := by
      rw [Monitor.evaluate_eq_read _ metric.ofName?_name,
        Monitor.evaluate_eq_read _ metric.ofName?_name, Monitor.read_append_replicate]
      omega
    have executed : Program.execute (environment.at place)
          { invocation with command := metric.command key.params } =
        Program.single (environment.at place)
          (Program.filter (environment.at place) invocation.verbosity)
          (Program.monitor environment settings place) metric
          (key.params ++ List.replicate (metric.maxParams - key.params.length) "") := by
      simp only [Program.execute, valid, Metric.command_eq_single fits]
      rfl
    obtain ⟨same, sent⟩ := Monitor.sameReport_single _ parsed named filled (environment.at place)
      (Program.filter (environment.at place) invocation.verbosity) place
    rw [executed]
    refine ⟨_, ?_, same, sent⟩
    rw [Batch.lines, List.getElem?_map, List.getElem?_zipIdx, listed]
    simp [Batch.evaluated, Environment.at]

end Metric

end ServiceProbe
