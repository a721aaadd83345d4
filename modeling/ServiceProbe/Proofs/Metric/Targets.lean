import ServiceProbe.Metric
import ServiceProbe.Proofs.Check.Probe
import ServiceProbe.Proofs.Port.Meaning
import ServiceProbe.Proofs.Target.Description

/-!
# What a metric checks

The parameters of a metric describe a target or are refused, and that is settled before anything
is dialled. An evaluation is either the refusal or a probe of the target, so the network has a
say in the reading and never in whether there is one.
-/

namespace ServiceProbe

namespace Metric

/-- The target that the parameters of a metric describe, or what is wrong with them. A port check
is a probe for a plain connection whose port token has to be a numeral. -/
def target (params : List String) : Metric → Except ParamError Target
  | port =>
    match params with
    | [address, token] =>
      if (Port.ofNumeral? token).isSome then .ok (.atAddress .tcp address token)
      else .error .invalidSecond
    | _ :: _ :: _ => .error .tooMany
    | _ => .error .invalidSecond
  | service | servicePerf => Target.ofParams params

/-- What it means that the parameters of a metric ask for a host and a port token. Those of a port check
are an address, which may be empty, and a numeral; the others describe a target. -/
def AsksFor (params : List String) (host token : String) : Metric → Prop
  | port => ∃ (address : String) (number : Port), params = [address, token] ∧
      Decimal.Numeral (Port.codes token) number.val ∧
      (address = "" ∧ host = "127.0.0.1" ∨ address ≠ "" ∧ host = address)
  | service | servicePerf => ∃ protocol, Target.Describes params ⟨protocol, host, token⟩

/-- The reading of a metric that found its service down. -/
def down : Metric → Reading
  | port | service => .count 0
  | servicePerf => .seconds (.ofUnits 0)

/-- A metric is found by its name. -/
theorem ofName?_name (metric : Metric) : ofName? metric.name = some metric := by
  cases metric <;> rfl

/-- It is found by no other name. -/
theorem ofName?_eq_some_iff {name : String} {metric : Metric} :
    ofName? name = some metric ↔ metric.name = name := by
  constructor
  · intro found
    unfold ofName? at found
    split at found <;> cases found <;> rfl
  · rintro rfl
    exact metric.ofName?_name

/-- The list of metrics leaves none out. -/
theorem mem_all (metric : Metric) : metric ∈ all := by
  cases metric <;> decide

/-- A metric is listed if and only if there is an evaluation of its name. -/
theorem supports_eq_isSome (name : String) : supports name = (ofName? name).isSome := by
  rw [Bool.eq_iff_iff, supports, List.any_eq_true, Option.isSome_iff_exists]
  simp only [beq_iff_eq, ofName?_eq_some_iff]
  constructor
  · rintro ⟨metric, -, named⟩
    exact ⟨metric, named⟩
  · rintro ⟨metric, named⟩
    exact ⟨metric, metric.mem_all, named⟩

/-- Whatever is wrong with the parameters of a metric, the metric itself is known. -/
theorem target_ne_unsupportedMetric (metric : Metric) (params : List String) :
    metric.target params ≠ .error .unsupportedMetric := by
  cases metric with
  | port =>
    unfold target
    dsimp only
    split
    · split <;> simp
    · simp
    · simp
  | service => exact Target.ofParams_ne_unsupportedMetric params
  | servicePerf => exact Target.ofParams_ne_unsupportedMetric params

/-- Only an address and a numeral describe the target of a port check. -/
theorem exists_numeral_of_target_port {params : List String} {target : Target}
    (described : port.target params = .ok target) :
    ∃ address token number, params = [address, token] ∧
      Port.ofNumeral? token = some number ∧ target = .atAddress .tcp address token := by
  rcases params with _ | ⟨address, _ | ⟨token, _ | ⟨extra, rest⟩⟩⟩
  · cases described
  · cases described
  · cases numeral : Port.ofNumeral? token with
    | none =>
      simp only [Metric.target, numeral, Option.isSome_none, Bool.false_eq_true, if_false,
        reduceCtorEq] at described
    | some number =>
      simp only [Metric.target, numeral, Option.isSome_some, if_true,
        Except.ok.injEq] at described
      exact ⟨address, token, number, rfl, numeral, described.symm⟩
  · cases described

/-- Parameters that describe the target of a metric ask for its host and its port token. -/
theorem asksFor_of_target {metric : Metric} {params : List String} {target : Target}
    (described : metric.target params = .ok target) :
    metric.AsksFor params target.host target.port := by
  cases metric with
  | port =>
    obtain ⟨address, token, number, rfl, numeral, rfl⟩ := exists_numeral_of_target_port described
    exact ⟨address, number, rfl, Port.ofNumeral?_eq_some_iff.mp numeral, hostOf_cases address⟩
  | service => exact ⟨target.protocol, Target.ofParams_eq_ok_iff_describes.mp described⟩
  | servicePerf => exact ⟨target.protocol, Target.ofParams_eq_ok_iff_describes.mp described⟩

/-- Only the third parameter of a service check can be a token that stands for no port. -/
theorem given_of_endpoint?_eq_none {metric : Metric} {params : List String} {target : Target}
    (described : metric.target params = .ok target) (unknown : target.endpoint? = none) :
    metric ≠ port ∧ params[2]? = some target.port ∧ target.port ≠ "" := by
  have unresolved : target.port? = none := Option.map_eq_none_iff.mp unknown
  cases metric with
  | port =>
    obtain ⟨address, token, number, rfl, numeral, rfl⟩ := exists_numeral_of_target_port described
    have resolved : (Target.atAddress .tcp address token).port? = some number :=
      Port.ofToken?_of_ofNumeral? numeral
    rw [unresolved] at resolved
    cases resolved
  | service =>
    have h := Target.ofParams_eq_ok_iff_describes.mp described
    exact ⟨Metric.noConfusion, h.given_of_port?_eq_none unresolved⟩
  | servicePerf =>
    have h := Target.ofParams_eq_ok_iff_describes.mp described
    exact ⟨Metric.noConfusion, h.given_of_port?_eq_none unresolved⟩

end Metric

namespace Monitor

/-- The reading of a metric whose target was found up, or not. -/
def reading (monitor : Monitor) (metric : Metric) (up : Bool) : Reading :=
  match metric with
  | .servicePerf => monitor.timed up
  | .port | .service => .ofBool up

/-- A service check with parameters that resolve to nothing is their refusal. -/
theorem checkService_of_refused {params : List String} {error : ParamError}
    (refused : Target.ofParams params = .error error) (monitor : Monitor) :
    monitor.checkService params = { answer := .error error } := by
  rw [checkService, refused]

/-- A service check with parameters that resolve to a target is a probe of that. -/
theorem checkService_of_described {params : List String} {target : Target}
    (described : Target.ofParams params = .ok target) (monitor : Monitor) :
    monitor.checkService params = (target.probe monitor.settings monitor.network).map .ok := by
  rw [checkService, described]

/-- Parameters that are refused are the end of the evaluation. -/
theorem read_of_refused {metric : Metric} {params : List String} {error : ParamError}
    (refused : metric.target params = .error error) (monitor : Monitor) :
    monitor.read params metric = { answer := .error error } := by
  cases metric with
  | port =>
    rcases params with _ | ⟨address, _ | ⟨token, _ | ⟨extra, rest⟩⟩⟩
    · cases refused
      rfl
    · cases refused
      rfl
    · cases numeral : Port.ofNumeral? token with
      | none =>
        simp only [Metric.target, numeral, Option.isSome_none, Bool.false_eq_true, if_false,
          Except.error.injEq] at refused
        simp only [read, checkPort, portOpen, numeral, ← refused]
        rfl
      | some port =>
        simp only [Metric.target, numeral, Option.isSome_some, if_true, reduceCtorEq] at refused
    · cases refused
      rfl
  | service =>
    rw [read, checkService_of_refused refused]
    rfl
  | servicePerf =>
    rw [read, checkService_of_refused refused]
    rfl

/-- Parameters that describe a target are evaluated by a probe of it. -/
theorem agree_read {metric : Metric} {params : List String} {target : Target}
    (described : metric.target params = .ok target) (monitor : Monitor) :
    (monitor.read params metric).Agree
      ((target.probe monitor.settings monitor.network).map
        fun up => .ok (monitor.reading metric up)) := by
  cases metric with
  | port =>
    obtain ⟨address, token, number, rfl, numeral, rfl⟩ :=
      Metric.exists_numeral_of_target_port described
    have agree : (portOpen monitor.network address token).Agree
        (((Target.atAddress .tcp address token).probe monitor.settings
          monitor.network).map .ok) :=
      agree_portOpen numeral rfl rfl monitor.settings
    exact agree.map fun answer => answer.map Reading.ofBool
  | service =>
    rw [read, checkService_of_described described]
    exact ⟨rfl, rfl, rfl⟩
  | servicePerf =>
    rw [read, checkService_of_described described]
    exact ⟨rfl, rfl, rfl⟩

/-- An evaluation fails if and only if the parameters are refused. -/
theorem answer_read_eq_error_iff (monitor : Monitor) {metric : Metric} {params : List String}
    {error : ParamError} :
    (monitor.read params metric).answer = .error error ↔
      metric.target params = .error error := by
  cases described : metric.target params with
  | error refusal => simp [read_of_refused described]
  | ok target => simp [(agree_read described monitor).answer]

/-- An evaluation dials the endpoint of its target and nothing else. -/
theorem dials_read {metric : Metric} {params : List String} {target : Target}
    (described : metric.target params = .ok target) (monitor : Monitor) :
    (monitor.read params metric).dials = target.endpoint?.toList := by
  rw [(agree_read described monitor).dials, Check.dials_map, Target.dials_probe]

/-- A target without an endpoint is evaluated as down. -/
theorem answer_read_of_unknown {metric : Metric} {params : List String} {target : Target}
    (described : metric.target params = .ok target) (unknown : target.endpoint? = none)
    (monitor : Monitor) : (monitor.read params metric).answer = .ok metric.down := by
  rw [(agree_read described monitor).answer, Check.answer_map,
    Target.answer_probe_of_endpoint?_eq_none unknown]
  cases metric <;> rfl

/-- An evaluation that has a reading dialled the host that was asked for at the port that the token
stands for, or nothing if a service check was given a token that stands for no port. -/
theorem dialled_of_read (monitor : Monitor) {metric : Metric} {params : List String}
    {reading : Reading} (h : (monitor.read params metric).answer = .ok reading) :
    ∃ host token, metric.AsksFor params host token ∧
      ((∃ port, Port.StandsFor token port ∧
          (monitor.read params metric).dials = [⟨host, port⟩]) ∨
        ((∀ port, ¬ Port.StandsFor token port) ∧ metric ≠ .port ∧ params[2]? = some token ∧
          token ≠ "" ∧ (monitor.read params metric).dials = [] ∧ reading = metric.down)) := by
  cases described : metric.target params with
  | error refusal =>
    rw [read_of_refused described] at h
    cases h
  | ok target =>
    refine ⟨target.host, target.port, Metric.asksFor_of_target described, ?_⟩
    rw [dials_read described]
    cases resolved : target.endpoint? with
    | none =>
      obtain ⟨notPort, given, filled⟩ := Metric.given_of_endpoint?_eq_none described resolved
      have stray := Port.ofToken?_eq_none_iff.mp (Option.map_eq_none_iff.mp resolved)
      rw [answer_read_of_unknown described resolved] at h
      cases h
      exact .inr ⟨stray, notPort, given, filled, rfl, rfl⟩
    | some endpoint =>
      obtain ⟨port, token, rfl⟩ := Option.map_eq_some_iff.mp resolved
      exact .inl ⟨port, Port.ofToken?_eq_some_iff.mp token, rfl⟩

/-- An evaluation by name is that of the metric of this name. -/
theorem evaluate_eq_read (monitor : Monitor) {name : String} {metric : Metric}
    (named : Metric.ofName? name = some metric) (params : List String) :
    monitor.evaluate name params = monitor.read params metric := by
  rw [evaluate, named]

/-- Without a metric of the name an evaluation is over. -/
theorem evaluate_of_unnamed (monitor : Monitor) {name : String}
    (unnamed : Metric.ofName? name = none) (params : List String) :
    monitor.evaluate name params = { answer := .error .unsupportedMetric } := by
  rw [evaluate, unnamed]

/-- What it means that a metric asked for by name is refused for its parameters before anything is
dialled, and for nothing that the network does. -/
structure RefusesFirst (monitor : Monitor) (name : String) (params : List String) : Prop where
  /-- It fails with an error if and only if it fails so everywhere: under any settings, on any
  network, however long a check takes. So no refused dial, failed read, deadline or wrong greeting
  is ever an error. -/
  everywhere : ∀ (other : Monitor) (error : ParamError),
    (monitor.evaluate name params).answer = .error error ↔
      (other.evaluate name params).answer = .error error
  /-- Where it fails it has dialled nothing. -/
  undialled : ∀ error, (monitor.evaluate name params).answer = .error error →
    (monitor.evaluate name params).dials = []
  /-- The metric is unsupported if and only if the list of metrics does not have it. -/
  unsupported : (monitor.evaluate name params).answer = .error .unsupportedMetric ↔
    Metric.supports name = false
  /-- Where there is a reading, the one endpoint dialled is the host that the parameters of the metric
  ask for, this machine if they leave it out, at the port that their token stands for. Only a token that
  was given to a service check may stand for no port, and then nothing is dialled and the service is
  down. -/
  dialled : ∀ reading, (monitor.evaluate name params).answer = .ok reading →
    ∃ (metric : Metric) (host token : String),
      metric.name = name ∧ metric.AsksFor params host token ∧
      ((∃ port, Port.StandsFor token port ∧
          (monitor.evaluate name params).dials = [⟨host, port⟩]) ∨
        ((∀ port, ¬ Port.StandsFor token port) ∧ metric ≠ .port ∧ params[2]? = some token ∧
          token ≠ "" ∧ (monitor.evaluate name params).dials = [] ∧ reading = metric.down))

/-- Every metric is refused first. -/
theorem refusesFirst (monitor : Monitor) (name : String) (params : List String) :
    monitor.RefusesFirst name params where
  everywhere := by
    intro other error
    cases named : Metric.ofName? name with
    | none => rw [evaluate_of_unnamed monitor named, evaluate_of_unnamed other named]
    | some metric =>
      rw [evaluate_eq_read monitor named, evaluate_eq_read other named,
        answer_read_eq_error_iff, answer_read_eq_error_iff]
  undialled := by
    intro error h
    cases named : Metric.ofName? name with
    | none => rw [evaluate_of_unnamed monitor named]
    | some metric =>
      rw [evaluate_eq_read monitor named] at h ⊢
      rw [read_of_refused (monitor.answer_read_eq_error_iff.mp h)]
  unsupported := by
    rw [Metric.supports_eq_isSome]
    cases named : Metric.ofName? name with
    | none => simp [evaluate_of_unnamed monitor named]
    | some metric =>
      rw [evaluate_eq_read monitor named, answer_read_eq_error_iff]
      simp [metric.target_ne_unsupportedMetric params]
  dialled := by
    intro reading h
    cases named : Metric.ofName? name with
    | none =>
      rw [evaluate_of_unnamed monitor named] at h
      cases h
    | some metric =>
      rw [evaluate_eq_read monitor named] at h ⊢
      obtain ⟨host, token, asked, outcome⟩ := dialled_of_read monitor h
      exact ⟨metric, host, token, Metric.ofName?_eq_some_iff.mp named, asked, outcome⟩

end Monitor

end ServiceProbe
