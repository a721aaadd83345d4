import ServiceProbe.Proofs.Greeting.Dialogue

/-!
# The deadline

The clock of a session. Time moves only by waiting: a piece is read when it is due, or at once if
it has been there for longer, and a write waits before it is made. All reads share one deadline,
fixed at the start, which no part of a longer banner moves and which a piece may still meet
exactly. Writes are not bound by it; they add their waits to the time of the deciding read.
-/

namespace ServiceProbe

namespace Arrival

/-- Whether a read by the deadline gets a part of a longer banner from an arrival. -/
structure Continues (protocol : Protocol) (deadline : Nat) (arrival : Arrival) : Prop where
  /-- It is there by the deadline. -/
  intime : arrival.due ≤ deadline
  /-- It brings bytes that the rule of the protocol waits on. -/
  part : ∃ piece, piece ≠ [] ∧ arrival.delivery = .data piece ∧
    Greeting.verdict? protocol piece = some .wait

/-- The time when a reader has waited for some arrivals, one behind the other. -/
def clock (now : Nat) (arrivals : List Arrival) : Nat :=
  arrivals.foldl (fun now arrival => max now arrival.due) now

/-- Waiting for what is in time takes no longer than the deadline. -/
theorem clock_le {deadline now : Nat} (intime : now ≤ deadline) {arrivals : List Arrival}
    (h : ∀ arrival ∈ arrivals, arrival.due ≤ deadline) : clock now arrivals ≤ deadline := by
  induction arrivals generalizing now with
  | nil => exact intime
  | cons arrival later ih =>
    obtain ⟨head, others⟩ := List.forall_mem_cons.mp h
    exact ih (Nat.max_le.mpr ⟨intime, head⟩) others

/-- Parts of a longer banner are all there by the deadline. -/
theorem clock_le_of_continues {protocol : Protocol} {deadline : Nat} {before : List Arrival}
    (h : ∀ arrival ∈ before, arrival.Continues protocol deadline) : clock 0 before ≤ deadline :=
  clock_le (Nat.zero_le _) fun arrival hm => (h arrival hm).intime

end Arrival

namespace Course

/-- A reading keeps within the deadline. -/
structure Within (deadline : Nat) (course : Course) : Prop where
  /-- All parts of a longer banner were read by the deadline. -/
  waited : ∀ read ∈ course.waited, read.1 ≤ deadline
  /-- The reading ended by the deadline. -/
  finish : course.finish ≤ deadline
  /-- If the deadline ended it, it ended right then. -/
  expired : course.ending = .expired → course.finish = deadline

/-- No read of such a reading comes after the deadline. -/
theorem Within.time_le {deadline : Nat} {course : Course} (h : course.Within deadline) :
    ∀ event ∈ course.reads, event.time ≤ deadline := by
  intro event hm
  obtain ⟨read, hr, rfl⟩ | ⟨last, -⟩ := course.mem_reads hm
  · exact h.waited read hr
  · exact last ▸ h.finish

/-- Reading from a time before the deadline keeps within it. -/
theorem within_reading (protocol : Protocol) {deadline now : Nat} (tail : Tail)
    (script : List Arrival) (intime : now ≤ deadline) :
    (reading protocol deadline tail now script).Within deadline := by
  fun_induction reading protocol deadline tail now script with
  | case1 now closed => exact ⟨by simp, intime, by simp⟩
  | case2 now silent => exact ⟨by simp, le_rfl, fun _ => rfl⟩
  | case3 now due delivery later late => exact ⟨by simp, le_rfl, fun _ => rfl⟩
  | case4 now due later early error => exact ⟨by simp, by dsimp only; omega, by simp⟩
  | case5 now due later early => exact ⟨by simp, by dsimp only; omega, by simp⟩
  | case6 now due later early piece hp hw ih =>
    have more := ih (by omega)
    refine ⟨?_, more.finish, more.expired⟩
    intro read hm
    rcases List.mem_cons.mp hm with rfl | hm
    · dsimp only
      omega
    · exact more.waited read hm
  | case7 now due later early piece hp hw => exact ⟨by simp, by dsimp only; omega, by simp⟩

/-- The deadline ends a reading if and only if it waits through every piece obtained in time and then
finds nothing. -/
theorem expired_reading_iff (protocol : Protocol) (deadline : Nat) (tail : Tail)
    {script : List Arrival} (fits : ∀ arrival ∈ script, arrival.Fits) (now : Nat) :
    (reading protocol deadline tail now script).ending = .expired ↔
      (∀ piece ∈ Arrival.obtained deadline script,
        Greeting.verdict? protocol piece = some .wait) ∧
      Arrival.starves deadline tail (Arrival.left deadline script) := by
  fun_induction reading protocol deadline tail now script with
  | case1 now closed => simp [Arrival.left, Arrival.starves, closed]
  | case2 now silent => simp [Arrival.left, Arrival.starves, Arrival.obtained, silent]
  | case3 now due delivery later late =>
    rw [Arrival.obtained_late late, Arrival.left_late late]
    simpa [Arrival.starves] using late
  | case4 now due later early error =>
    have left : Arrival.left deadline (⟨due, .failure error⟩ :: later) =
        ⟨due, .failure error⟩ :: later := rfl
    simp [left, Arrival.starves, early]
  | case5 now due later early =>
    have left : Arrival.left deadline (⟨due, .data []⟩ :: later) = ⟨due, .data []⟩ :: later := rfl
    simp [left, Arrival.starves, early]
  | case6 now due later early piece hp hw ih =>
    obtain ⟨fitsHead, fitsLater⟩ := List.forall_mem_cons.mp fits
    have intime := Nat.not_lt.mp early
    rw [Arrival.obtained_piece intime hp (fitsHead _ rfl), Arrival.left_data intime hp,
      List.forall_mem_cons, and_iff_right hw, ← ih fitsLater]
    rfl
  | case7 now due later early piece hp hw =>
    obtain ⟨fitsHead, -⟩ := List.forall_mem_cons.mp fits
    rw [Arrival.obtained_piece (Nat.not_lt.mp early) hp (fitsHead _ rfl), List.forall_mem_cons]
    simp [hw]

/-- A course with parts of a longer banner before it. -/
def behind (course : Course) (waited : List (Nat × List UInt8)) : Course :=
  { course with waited := waited ++ course.waited }

/-- Parts of a longer banner move the clock and leave the deadline where it is. -/
theorem reading_append {protocol : Protocol} {deadline : Nat} {before : List Arrival}
    (h : ∀ arrival ∈ before, arrival.Continues protocol deadline) (tail : Tail) (now : Nat)
    (later : List Arrival) :
    ∃ waited : List (Nat × List UInt8), waited.length = before.length ∧
      reading protocol deadline tail now (before ++ later) =
        (reading protocol deadline tail (Arrival.clock now before) later).behind waited := by
  induction before generalizing now with
  | nil => exact ⟨[], rfl, rfl⟩
  | cons arrival before ih =>
    obtain ⟨head, others⟩ := List.forall_mem_cons.mp h
    obtain ⟨intime, piece, hp, hd, hw⟩ := head
    obtain ⟨due, delivery⟩ := arrival
    obtain rfl : delivery = .data piece := hd
    obtain ⟨waited, hl, hr⟩ := ih others (max now due)
    refine ⟨(max now due, piece) :: waited, congrArg (· + 1) hl, ?_⟩
    rw [List.cons_append, reading_piece (Nat.not_lt.mpr intime) hp, if_pos hw, hr]
    rfl

end Course

namespace Session

/-- What is sent on a piece takes as long as its writes wait. -/
theorem finish_sending (session : Session) (time : Nat) (piece : List UInt8) :
    (session.sending time piece).1.finish =
      time + session.peer.intake.delay * (session.sending time piece).1.events.length := by
  unfold sending Greeting.say
  cases session.message? piece with
  | none => simp
  | some message => exact Intake.finish_send _ _ _ _

/-- A session ends when its reading does, and its writes take as long as they wait. -/
theorem finish_outcome (session : Session) (course : Course) :
    (session.outcome course).finish =
      course.finish + session.peer.intake.delay * (session.writes course).length := by
  unfold outcome Outcome.after writes
  cases course.ending with
  | judged piece => exact session.finish_sending _ _
  | closed => rfl
  | broken error => rfl
  | expired => rfl

/-- The log tells that the deadline ended a session exactly when it did. -/
theorem deadlineExceeded_mem_log_outcome (session : Session) (course : Course) :
    .deadlineExceeded ∈ (session.outcome course).log ↔ course.ending = .expired := by
  unfold outcome Outcome.after
  cases course.ending with
  | judged piece =>
    have sending : .deadlineExceeded ∉ (session.sending course.finish piece).2 := by
      unfold Session.sending Greeting.say unsent
      cases session.message? piece with
      | none => simp
      | some message => cases session.protocol <;> simp
    cases session.admits piece <;> simp [conclude, sending]
  | closed => simp [fail]
  | broken error => simp [fail]
  | expired => simp [fail]

/-- What was waited through first comes first in the outcome, however much it was. -/
theorem outcome_behind (session : Session) (course : Course) (waited : List (Nat × List UInt8)) :
    session.outcome (course.behind waited) =
      (session.outcome course).after (waited.map fun read => ⟨read.1, .read read.2.length⟩)
        (waited.map fun read => .greetingRead session.protocol read.2) := by
  simp [outcome, Course.behind, Outcome.after]

/-- The reading of a session keeps within its deadline. -/
theorem within_course (session : Session) : session.course.Within session.deadline :=
  Course.within_reading _ _ _ (Nat.zero_le _)

/-- The deadline ends a session if and only if it waits through every piece obtained in time and then
finds nothing. -/
theorem expired_course_iff (session : Session) :
    session.course.ending = .expired ↔
      (∀ piece ∈ Arrival.obtained session.deadline session.peer.arrivals,
        Greeting.verdict? session.protocol piece = some .wait) ∧
      Arrival.starves session.deadline session.peer.tail
        (Arrival.left session.deadline session.peer.arrivals) := by
  rw [course, Course.expired_reading_iff _ _ _ session.peer.fits_script, Peer.script,
    Arrival.obtained_flatMap_pieces, Arrival.starves_left_flatMap_pieces]

/-- Behind parts of a longer banner the course goes on from the time when they were there. -/
theorem exists_course_behind (session : Session) {before later : List Arrival}
    (script : session.peer.script = before ++ later)
    (h : ∀ arrival ∈ before, arrival.Continues session.protocol session.deadline) :
    ∃ waited, waited.length = before.length ∧ session.course =
      (Course.reading session.protocol session.deadline session.peer.tail
        (Arrival.clock 0 before) later).behind waited := by
  rw [course, script]
  exact Course.reading_append h _ _ _

/-- The reads of a run are those of its course. -/
theorem mem_events_run_iff {session : Session} {event : Event} (h : event.isRead = true) :
    event ∈ session.run.events ↔ event ∈ session.course.reads := by
  rw [← filter_isRead_run, List.mem_filter, and_iff_left h]

/-- A piece in time behind parts of a longer banner is read when it is due, or at once if that is
past. -/
theorem read_mem_events_run (session : Session) {before later : List Arrival} {due : Nat}
    {piece : List UInt8} (script : session.peer.script = before ++ ⟨due, .data piece⟩ :: later)
    (intime : due ≤ session.deadline) (hp : piece ≠ [])
    (h : ∀ arrival ∈ before, arrival.Continues session.protocol session.deadline) :
    ⟨max (Arrival.clock 0 before) due, .read piece.length⟩ ∈ session.run.events := by
  obtain ⟨waited, -, hc⟩ := session.exists_course_behind script h
  rw [mem_events_run_iff rfl, hc, Course.reading_piece (Nat.not_lt.mpr intime) hp]
  by_cases hw : Greeting.verdict? session.protocol piece = some .wait
  · simp [hw, Course.reads, Course.behind, Course.after]
  · simp [hw, Course.reads, Course.behind]

/-- The first piece in time that is no part of a longer banner decides. -/
theorem decisive?_of_script (session : Session) {before later : List Arrival} {due : Nat}
    {piece : List UInt8} (script : session.peer.script = before ++ ⟨due, .data piece⟩ :: later)
    (intime : due ≤ session.deadline) (hp : piece ≠ [])
    (h : ∀ arrival ∈ before, arrival.Continues session.protocol session.deadline)
    (hj : Greeting.verdict? session.protocol piece ≠ some .wait) :
    session.decisive? = some piece := by
  obtain ⟨waited, -, hc⟩ := session.exists_course_behind script h
  rw [← judged?_course, hc, Course.reading_piece (Nat.not_lt.mpr intime) hp, if_neg hj]
  rfl

/-- Behind parts of a longer banner the loop goes on with the same deadline. -/
theorem exists_run_behind (session : Session) {before later : List Arrival}
    (script : session.peer.script = before ++ later)
    (h : ∀ arrival ∈ before, arrival.Continues session.protocol session.deadline) :
    ∃ events log, events.length = before.length ∧
      session.run = (session.resume (Arrival.clock 0 before) .fresh later).after events log := by
  obtain ⟨waited, hl, hc⟩ := session.exists_course_behind script h
  have fits : ∀ arrival ∈ later, arrival.Fits := by
    intro arrival hm
    apply session.peer.fits_script
    rw [script]
    exact List.mem_append_right _ hm
  have run := session.run_eq
  rw [hc, outcome_behind,
    ← session.resume_eq fits (Arrival.clock_le_of_continues h) .fresh] at run
  exact ⟨_, _, by rw [List.length_map, hl], run⟩

/-- A session has only reads if and only if its course gives rise to no writes. -/
theorem forall_isRead_run_iff (session : Session) :
    (∀ event ∈ session.run.events, event.isRead = true) ↔
      session.writes session.course = [] := by
  rw [events_run, List.forall_mem_append, and_iff_right session.course.isRead_reads]
  constructor
  · intro h
    apply List.eq_nil_iff_forall_not_mem.mpr
    intro event hm
    have hr := h event hm
    rw [session.isRead_writes _ event hm] at hr
    cases hr
  · intro h
    simp [h]

/-- A session that writes has a deciding read, and it is the last one. -/
theorem exists_deciding_read {session : Session} (h : session.writes session.course ≠ []) :
    ∃ reads piece, session.decisive? = some piece ∧
      session.course.reads = reads ++ [⟨session.course.finish, .read piece.length⟩] := by
  have decided := session.judged?_course
  cases he : session.course.ending with
  | judged piece =>
    rw [he] at decided
    refine ⟨session.course.waited.map fun read => ⟨read.1, .read read.2.length⟩, piece,
      decided.symm, ?_⟩
    rw [Course.reads, he]
  | _ =>
    rw [writes, he] at h
    exact absurd rfl h

/-- What it means that a session keeps to its one deadline. -/
structure KeepsDeadline (session : Session) : Prop where
  /-- No read comes after the deadline. -/
  reads : ∀ event ∈ session.run.events, event.isRead = true → event.time ≤ session.deadline
  /-- A piece that is there by the deadline is read when it is due, or at once if that is past, and
  its verdict counts. The deadline itself is still in time, for a piece that is due then and for one
  behind it. -/
  intime : ∀ before due piece later,
    session.peer.script = before ++ ⟨due, .data piece⟩ :: later → due ≤ session.deadline →
      piece ≠ [] → (∀ arrival ∈ before, arrival.Continues session.protocol session.deadline) →
        ∃ time ≤ session.deadline, time = max (Arrival.clock 0 before) due ∧
          ⟨time, .read piece.length⟩ ∈ session.run.events ∧
          (Greeting.verdict? session.protocol piece ≠ some .wait →
            session.run.up = session.admits piece)
  /-- However many parts of a longer banner there are, the session goes on behind them from the
  time when they were there, under the same deadline. -/
  fixed : ∀ before later, session.peer.script = before ++ later →
    (∀ arrival ∈ before, arrival.Continues session.protocol session.deadline) →
      ∃ events log, events.length = before.length ∧
        session.run = (session.resume (Arrival.clock 0 before) .fresh later).after events log
  /-- A session that writes nothing is over by the deadline. -/
  silent : (∀ event ∈ session.run.events, event.isRead = true) →
    session.run.finish ≤ session.deadline
  /-- The deadline ends a session if and only if every piece obtained in time was a part of a longer
  banner and nothing else comes by then. -/
  expires : .deadlineExceeded ∈ session.run.log ↔
    (∀ piece ∈ Arrival.obtained session.deadline session.peer.arrivals,
      Greeting.verdict? session.protocol piece = some .wait) ∧
    Arrival.starves session.deadline session.peer.tail
      (Arrival.left session.deadline session.peer.arrivals)
  /-- It ends it right then. -/
  expired : .deadlineExceeded ∈ session.run.log → session.run.finish = session.deadline
  /-- A session that writes is over when all its writes have waited, one behind the other, from the
  time of the deciding read on. -/
  spoken : ∀ event ∈ session.run.events, event.isRead = false →
    ∃ reads time piece writes, session.decisive? = some piece ∧
      session.run.events = reads ++ ⟨time, .read piece.length⟩ :: writes ∧
      (∀ read ∈ reads, read.isRead = true) ∧ (∀ write ∈ writes, write.isRead = false) ∧
      session.run.finish = time + session.peer.intake.delay * writes.length

/-- Every session keeps to its deadline. -/
theorem keepsDeadline (session : Session) : session.KeepsDeadline where
  reads := by
    intro event hm hr
    exact session.within_course.time_le _ ((mem_events_run_iff hr).mp hm)
  intime := by
    intro before due piece later script intime hp h
    have clock := Arrival.clock_le_of_continues h
    refine ⟨_, Nat.max_le.mpr ⟨clock, intime⟩, rfl,
      session.read_mem_events_run script intime hp h, ?_⟩
    intro hj
    rw [run_up_eq, session.decisive?_of_script script intime hp h hj]
    rfl
  fixed := by
    intro before later script h
    exact session.exists_run_behind script h
  silent := by
    intro h
    have finish := session.finish_outcome session.course
    rw [session.forall_isRead_run_iff.mp h, List.length_nil, Nat.mul_zero] at finish
    rw [run_eq, finish]
    exact session.within_course.finish
  expires := by
    rw [run_eq, deadlineExceeded_mem_log_outcome, expired_course_iff]
  expired := by
    intro h
    rw [run_eq, deadlineExceeded_mem_log_outcome] at h
    have finish := session.finish_outcome session.course
    rw [writes, h, List.length_nil, Nat.mul_zero] at finish
    rw [run_eq, finish]
    exact session.within_course.expired h
  spoken := by
    intro event hm hw
    have written : session.writes session.course ≠ [] := by
      intro hn
      rw [session.forall_isRead_run_iff.mpr hn event hm] at hw
      cases hw
    obtain ⟨reads, piece, decided, split⟩ := exists_deciding_read written
    refine ⟨reads, session.course.finish, piece, session.writes session.course, decided, ?_, ?_,
      session.isRead_writes _, ?_⟩
    · rw [events_run, split, List.append_assoc, List.singleton_append]
    · intro read hr
      apply session.course.isRead_reads
      rw [split]
      exact List.mem_append_left _ hr
    · rw [run_eq, finish_outcome]

/-- A mail server whose ready line is there at the very deadline, and which takes its time over what
is written to it. -/
def lastMinuteSession : Session :=
  { protocol := .smtp
    agentName := "probe"
    deadline := 40
    peer :=
      { arrivals :=
          [⟨10, .data (Utf8.encode "220-please wait\r\n")⟩,
            ⟨40, .data (Utf8.encode "220 ready\r\n")⟩]
        tail := .silent
        intake := { chunk := some 4, delay := 5 } } }

/-- The ready line is read at the deadline and accepted. -/
theorem lastMinuteSession_read :
    ⟨40, .read 11⟩ ∈ lastMinuteSession.run.events ∧ lastMinuteSession.run.up = true := by
  have script : lastMinuteSession.peer.script =
      [⟨10, .data (Utf8.encode "220-please wait\r\n")⟩] ++
        ⟨lastMinuteSession.deadline, .data (Utf8.encode "220 ready\r\n")⟩ :: [] := by
    decide +kernel
  have before : ∀ arrival ∈ [(⟨10, .data (Utf8.encode "220-please wait\r\n")⟩ : Arrival)],
      arrival.Continues lastMinuteSession.protocol lastMinuteSession.deadline := by
    rw [List.forall_mem_singleton]
    exact ⟨by decide, _, by decide, rfl, by decide⟩
  obtain ⟨time, -, rfl, read, judged⟩ :=
    lastMinuteSession.keepsDeadline.intime _ _ _ _ script le_rfl (by decide) before
  exact ⟨read, judged (by decide)⟩

end Session

end ServiceProbe
