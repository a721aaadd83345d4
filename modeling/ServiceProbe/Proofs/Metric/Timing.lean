import ServiceProbe.Proofs.Elapsed.Range
import ServiceProbe.Proofs.Metric.Targets

/-!
# The timed check beside the plain one

Both service checks probe the same target, so one fails where the other does, and the timed one
reads zero where the plain one does. A service that is up is never below the least number of
seconds, however short the time, and six decimals are enough to tell it from zero.
-/

namespace ServiceProbe

/-- Zero seconds, as they are written. -/
theorem Reading.text_zero : (Reading.seconds (.ofUnits 0)).text = "0.000000" := by
  decide +kernel

namespace Elapsed

namespace Reportable

variable {units : Nat}

/-- A reportable number of seconds is not zero. -/
theorem ne_zero (h : Reportable units) : units ≠ 0 := by
  rintro rfl
  have one := h.tenth_milli
  rw [Nat.zero_mul] at one
  exact absurd Binary64.unitsPerOne_pos (Nat.not_lt.mpr one)

/-- Nor is it written as zero. -/
theorem text_ne (h : Reportable units) :
    (Reading.seconds (.ofUnits units)).text ≠ "0.000000" := by
  intro same
  obtain ⟨micros, floor, shown⟩ := h.shows
  have zero : Binary64.Shows 6 0 "0.000000" := Binary64.shows_decimalText (by decide) 0
  have text : (Binary64.ofUnits units).fixed places = "0.000000" := same
  rw [text] at shown
  have micros_zero := shown.unique zero
  omega

end Reportable

end Elapsed

namespace Monitor

/-- The two service checks come to an end together: refused for the same reason, or with the
readings of the same probe. -/
theorem answers_of_service (monitor : Monitor) (params : List String) :
    (∃ error, (monitor.evaluate Metric.servicePerf.name params).answer = .error error ∧
        (monitor.evaluate Metric.service.name params).answer = .error error) ∨
      ∃ up, (monitor.evaluate Metric.servicePerf.name params).answer = .ok (monitor.timed up) ∧
        (monitor.evaluate Metric.service.name params).answer = .ok (.ofBool up) := by
  rw [monitor.evaluate_eq_read Metric.servicePerf.ofName?_name,
    monitor.evaluate_eq_read Metric.service.ofName?_name]
  cases described : Target.ofParams params with
  | error error =>
    have timed : Metric.servicePerf.target params = .error error := described
    have plain : Metric.service.target params = .error error := described
    exact .inl ⟨error, monitor.answer_read_eq_error_iff.mpr timed,
      monitor.answer_read_eq_error_iff.mpr plain⟩
  | ok target =>
    have timed : Metric.servicePerf.target params = .ok target := described
    have plain : Metric.service.target params = .ok target := described
    exact .inr ⟨_, (agree_read timed monitor).answer, (agree_read plain monitor).answer⟩

/-- What it means that the timed check of some parameters says what the plain one does. -/
structure MirrorsService (monitor : Monitor) (params : List String) : Prop where
  /-- It fails where the plain check fails, with the same error. -/
  errors : ∀ error,
    (monitor.evaluate "net.tcp.service.perf" params).answer = .error error ↔
      (monitor.evaluate "net.tcp.service" params).answer = .error error
  /-- It reads zero where the plain check reads zero, -/
  zero : (monitor.evaluate "net.tcp.service.perf" params).answer = .ok (.seconds (.ofUnits 0)) ↔
    (monitor.evaluate "net.tcp.service" params).answer = .ok (.count 0)
  /-- and that zero is written with six decimals. -/
  zero_text : (Reading.seconds (.ofUnits 0)).text = "0.000000"
  /-- Every other reading is a number of seconds that can be told from zero. -/
  positive : ∀ reading,
    (monitor.evaluate "net.tcp.service.perf" params).answer = .ok reading →
      reading ≠ .seconds (.ofUnits 0) →
        (monitor.evaluate "net.tcp.service" params).answer = .ok (.count 1) ∧
          ∃ units, reading = .seconds (.ofUnits units) ∧ Elapsed.Reportable units
  /-- So the text is that of zero just where the service is down. -/
  text : ∀ reading, (monitor.evaluate "net.tcp.service.perf" params).answer = .ok reading →
    (reading.text = "0.000000" ↔
      (monitor.evaluate "net.tcp.service" params).answer = .ok (.count 0))

/-- The timed check mirrors the plain one for every time that a clock can measure. -/
theorem mirrorsService (monitor : Monitor) (h : monitor.elapsed.InRange) (params : List String) :
    monitor.MirrorsService params := by
  have reportable := Elapsed.reportable_units h
  have outcome := monitor.answers_of_service params
  simp only [Metric.name] at outcome
  obtain ⟨error, timed, plain⟩ | ⟨up, timed, plain⟩ := outcome
  · constructor <;> simp [timed, plain, Reading.text_zero]
  · cases up with
    | false =>
      constructor <;>
        simp [timed, plain, Monitor.timed, Reading.ofBool, Reading.text_zero]
    | true =>
      have seconds : monitor.timed true = .seconds (.ofUnits (Elapsed.units monitor.elapsed)) :=
        rfl
      have zero : Elapsed.units monitor.elapsed ≠ 0 := reportable.ne_zero
      rw [seconds] at timed
      constructor
      · simp [timed, plain]
      · simp [timed, plain, Reading.ofBool, Binary64.ofUnits, zero]
      · exact Reading.text_zero
      · intro reading same _
        rw [timed] at same
        cases same
        exact ⟨plain, _, rfl, reportable⟩
      · intro reading same
        rw [timed] at same
        cases same
        simp [plain, Reading.ofBool, reportable.text_ne]

/-- A monitor of a host that accepts every connection, in fewer nanoseconds than make half a
microsecond. -/
def promptMonitor : Monitor :=
  { settings := .standard
    network := fun _ => .ok ⟨[], .silent, {}⟩
    elapsed := ⟨0, 499⟩ }

/-- Its time rounds to no microseconds at all and is not written as zero. -/
theorem promptMonitor_mirrorsService :
    promptMonitor.elapsed.InRange ∧
      Elapsed.microsOf (Elapsed.secondsOf promptMonitor.elapsed) = 0 ∧
      ∃ reading,
        (promptMonitor.evaluate "net.tcp.service.perf" ["tcp", "", "80"]).answer = .ok reading ∧
          reading.text ≠ "0.000000" := by
  have range : promptMonitor.elapsed.InRange := ⟨by decide, by decide⟩
  have mirrors := promptMonitor.mirrorsService range ["tcp", "", "80"]
  have up : (promptMonitor.evaluate "net.tcp.service" ["tcp", "", "80"]).answer =
      .ok (.count 1) := by decide
  refine ⟨range, by decide +kernel, ?_⟩
  cases timed : (promptMonitor.evaluate "net.tcp.service.perf" ["tcp", "", "80"]).answer with
  | error error =>
    rw [(mirrors.errors error).mp timed] at up
    cases up
  | ok reading =>
    refine ⟨reading, rfl, ?_⟩
    rw [Ne, mirrors.text reading timed, up]
    decide

end Monitor

end ServiceProbe
