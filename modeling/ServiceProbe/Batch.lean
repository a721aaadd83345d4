import ServiceProbe.ItemKey.Parser
import ServiceProbe.Metric
import ServiceProbe.Terminal

/-!
# Batches of item keys

Several keys are evaluated at the same time and come to an end in any order. Each keeps the
place it was asked for at, so the report lists them in that order; a key that cannot be
evaluated is reported with the reason and holds up no other.
-/

namespace ServiceProbe

/-- Evaluate the key that a text spells. What is wrong with it is told in words. -/
def Monitor.evaluateKey (monitor : Monitor) (raw : String) : Check (Except String Reading) :=
  match ItemKey.parse raw with
  | .error error => { answer := .error s!"Invalid item key format: {error.message}" }
  | .ok key =>
    if Metric.supports key.name then
      let check := (monitor.evaluate key.name key.params).map (·.mapError ParamError.message)
      { check with log := .evaluating key Metric.family :: check.log }
    else { answer := .error ParamError.unsupportedMetric.message }

/-- A key that was evaluated. -/
structure Finished where
  /-- The place at which it was asked for. -/
  place : Nat
  /-- The key as it was spelled. -/
  raw : String
  /-- Its evaluation. -/
  check : Check (Except String Reading)

namespace Batch

/-- The column at which results start. -/
def resultColumn : Nat := 46

/-- The evaluation of every key, each with the monitor of its place. -/
def evaluate (monitor : Nat → Monitor) (keys : List String) : List Finished :=
  keys.zipIdx.map fun (raw, place) => ⟨place, raw, (monitor place).evaluateKey raw⟩

/-- Keys in the order of their places. -/
def inOrder (finished : List Finished) : List Finished :=
  finished.mergeSort fun a b => a.place ≤ b.place

/-- The line that reports a key. -/
def line (colour : Bool) (key : Finished) : String :=
  let result := match key.check.answer with
    | .ok reading => s!"[t|{Terminal.paint colour .green reading.text}]"
    | .error message => s!"[m|{Terminal.paint colour .red message}]"
  Terminal.column resultColumn key.raw ++ result ++ "\n"

/-- The report on keys that came to an end in some order. -/
def report (colour : Bool) (finished : List Finished) : String :=
  String.join ((inOrder finished).map (line colour))

end Batch

end ServiceProbe
