import ServiceProbe.Proofs.Metric.Targets

/-!
# Parameters left out

Each metric has its own way to find out that a parameter is missing, and none of them tells it from
an empty one. So a list of parameters may be filled up with empty ones to the most that its metric
takes, and the evaluation stays the same in all it does; one parameter more and it is refused.
-/

namespace ServiceProbe

namespace Target

variable {params : List String}

/-- An empty parameter behind the others stands at its own place only. -/
theorem getElem?_append_empty (params : List String) (index : Nat) :
    (params ++ [""])[index]? = if index = params.length then some "" else params[index]? := by
  rcases Nat.lt_trichotomy index params.length with before | here | behind
  · rw [List.getElem?_append_left before, if_neg (Nat.ne_of_lt before)]
  · rw [if_pos here, here, List.getElem?_concat_length]
  · have none : (params ++ [""])[index]? = none := by
      rw [List.getElem?_eq_none_iff, List.length_append, List.length_singleton]
      exact behind
    rw [none, if_neg (Nat.ne_of_gt behind), List.getElem?_eq_none (Nat.le_of_lt behind)]

/-- It is given nowhere, -/
theorem given?_append_empty (params : List String) (index : Nat) :
    given? (params ++ [""]) index = given? params index := by
  unfold given?
  rw [getElem?_append_empty]
  split
  · rename_i here
    rw [here, List.getElem?_eq_none (Nat.le_refl _)]
    rfl
  · rfl

/-- and where one may be empty it is as good as none. -/
theorem getD_append_empty (params : List String) (index : Nat) :
    (params ++ [""])[index]?.getD "" = params[index]?.getD "" := by
  rw [getElem?_append_empty]
  split
  · rename_i here
    rw [here, List.getElem?_eq_none (Nat.le_refl _)]
    rfl
  · rfl

/-- Service parameters describe the same target with an empty one behind them. -/
theorem ofParams_append_empty (room : params.length < maxParams) :
    ofParams (params ++ [""]) = ofParams params := by
  have few : ¬ maxParams < (params ++ [""]).length := by
    rw [List.length_append, List.length_singleton]
    omega
  unfold ofParams
  rw [if_neg few, if_neg (Nat.not_lt.mpr (Nat.le_of_lt room)), given?_append_empty,
    given?_append_empty, getD_append_empty]

end Target

namespace Metric

/-- The most parameters that a metric takes. -/
def maxParams : Metric → Nat
  | port => 2
  | service | servicePerf => Target.maxParams

/-- More parameters than a metric takes are too many, whatever they are. -/
theorem target_of_many {metric : Metric} {params : List String}
    (many : metric.maxParams < params.length) : metric.target params = .error .tooMany := by
  cases metric with
  | port =>
    rcases params with _ | ⟨address, _ | ⟨token, _ | ⟨extra, rest⟩⟩⟩
    · exact absurd many (by decide)
    · exact absurd many (Nat.not_lt.mpr (Nat.le_succ 1))
    · exact absurd many (Nat.lt_irrefl 2)
    · rfl
  | service => exact if_pos many
  | servicePerf => exact if_pos many

end Metric

namespace Monitor

variable {metric : Metric} {params : List String}

/-- A port check does not tell an empty parameter from none. -/
theorem checkPort_append_empty (monitor : Monitor) (room : params.length < 2) :
    monitor.checkPort (params ++ [""]) = monitor.checkPort params := by
  rcases params with _ | ⟨address, _ | ⟨token, rest⟩⟩
  · rfl
  · have unread : Port.ofNumeral? "" = none := by decide
    simp only [List.singleton_append, checkPort, portOpen, unread]
  · exact absurd room (Nat.not_lt.mpr (Nat.le_add_left 2 rest.length))

/-- Nor does a service check. -/
theorem checkService_append_empty (monitor : Monitor) (room : params.length < Target.maxParams) :
    monitor.checkService (params ++ [""]) = monitor.checkService params := by
  rw [checkService, checkService, Target.ofParams_append_empty room]

/-- An empty parameter behind the others changes nothing, as long as there is room for it. -/
theorem read_append_empty (monitor : Monitor) (room : params.length < metric.maxParams) :
    monitor.read (params ++ [""]) metric = monitor.read params metric := by
  cases metric with
  | port => rw [read, read, monitor.checkPort_append_empty room]
  | service => rw [read, read, monitor.checkService_append_empty room]
  | servicePerf => rw [read, read, monitor.checkService_append_empty room]

/-- Nor do several of them. -/
theorem read_append_replicate (monitor : Monitor) {count : Nat}
    (room : params.length + count ≤ metric.maxParams) :
    monitor.read (params ++ List.replicate count "") metric = monitor.read params metric := by
  induction count with
  | zero => rw [List.replicate_zero, List.append_nil]
  | succ count ih =>
    have inner : (params ++ List.replicate count "").length < metric.maxParams := by
      rw [List.length_append, List.length_replicate]
      omega
    rw [List.replicate_succ', ← List.append_assoc, monitor.read_append_empty inner,
      ih (by omega)]

end Monitor

end ServiceProbe
