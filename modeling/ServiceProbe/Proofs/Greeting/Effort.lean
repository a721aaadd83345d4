import ServiceProbe.Proofs.Greeting.Account

/-!
# The effort of a session

How many calls a session makes before it is over. Each read but the last one gets a part of a longer
banner, and what is got by the deadline are pieces of the script, so there is one read more than the
script has pieces, at most. Each write takes a byte of the one message, at least, but for one that gives
up what is left of it, so there are no more writes than the message has bytes. No read waits beyond the
deadline, and then there are only the waits of the writes.
-/

namespace ServiceProbe

/-- Whether a notice tells of a read that the deadline cut off. -/
def Notice.isCutOff : Notice → Bool
  | .deadlineExceeded => true
  | _ => false

namespace Session

/-- How many reads were begun: those that came to something, and the one that the deadline cut off, if
it did. -/
def Outcome.readCalls (outcome : Outcome) : Nat :=
  outcome.events.countP Event.isRead + outcome.log.countP Notice.isCutOff

/-- Only the reason of a failure tells of a read that was cut off. -/
theorem countP_isCutOff_log_run (session : Session) :
    session.run.log.countP Notice.isCutOff = session.reason?.toList.countP Notice.isCutOff := by
  have heard : (session.heard.map (.greetingRead session.protocol)).countP Notice.isCutOff = 0 := by
    rw [List.countP_eq_zero, List.forall_mem_map]
    exact fun _ _ => Bool.false_ne_true
  have unsent :
      (session.parting.failure.toList.map session.unsent).countP Notice.isCutOff = 0 := by
    rw [List.countP_eq_zero, List.forall_mem_map]
    intro error _
    unfold Session.unsent
    cases session.protocol <;> exact Bool.false_ne_true
  rw [log_run, List.countP_append, List.countP_append, heard, unsent, Nat.zero_add]

/-- The events of a run count as many reads as its course has. -/
theorem countP_isRead_run (session : Session) :
    session.run.events.countP Event.isRead = session.course.reads.length := by
  rw [List.countP_eq_length_filter, filter_isRead_run]

/-- A session begins a read for each part of a longer banner that it waits through, and one more, with
which its reading ends. -/
theorem readCalls_run (session : Session) :
    session.run.readCalls = session.waitedThrough.length + 1 := by
  rw [Outcome.readCalls, countP_isCutOff_log_run, countP_isRead_run, ← map_snd_waited_course,
    Course.reads, reason?, List.length_append, List.length_map, List.length_map]
  cases session.course.ending with
  | judged piece =>
    cases admitted : session.admits piece with
    | false => simp [admitted, Notice.isCutOff]
    | true => simp [admitted]
  | closed => rfl
  | broken error => rfl
  | expired => rfl

/-- No more parts of a longer banner are waited through than the script has pieces. -/
theorem length_waitedThrough_le (session : Session) :
    session.waitedThrough.length ≤ Arrival.pieceTotal session.peer.arrivals :=
  calc session.waitedThrough.length
    _ ≤ (Arrival.obtained session.deadline session.peer.arrivals).length :=
      (List.takeWhile_prefix _).length_le
    _ ≤ Arrival.pieceTotal session.peer.arrivals := Arrival.length_obtained_le _ _

/-- The writes of a run are those of its parting. -/
theorem filter_not_isRead_run (session : Session) :
    (session.run.events.filter fun event => !event.isRead) = session.parting.events := by
  have reads : ∀ event ∈ session.course.reads, ¬ (!event.isRead) = true := by
    intro event hm
    simp [session.course.isRead_reads event hm]
  have writes : ∀ event ∈ session.parting.events, (!event.isRead) = true := by
    intro event hm
    rw [Intake.isRead_send _ _ _ _ event hm, Bool.not_false]
  rw [events_run_parting, List.filter_append, List.filter_eq_nil_iff.mpr reads,
    List.filter_eq_self.mpr writes, List.nil_append]

/-- A parting is a row of writes that take something each, and behind them one write at most, that fails
or takes nothing; together there are no more than the message has bytes. -/
theorem exists_events_parting (session : Session) :
    ∃ taking last, session.parting.events = taking ++ last ∧
      (∀ event ∈ taking, event.written ≠ []) ∧ (∀ event ∈ last, event.written = []) ∧
      last.length ≤ 1 ∧ taking.length + last.length ≤ session.lastWord.length := by
  obtain ⟨taking, last, events, some, gaveUp, bound⟩ :=
    session.peer.intake.exists_events_send session.course.finish 0 session.lastWord
  refine ⟨taking, last, events, some, ?_, ?_, bound⟩
  · intro event hm
    by_contra taken
    have given : event.gaveUp? ∈ last.map Event.gaveUp? := List.mem_map_of_mem hm
    rw [gaveUp, Event.gaveUp?_of_written taken] at given
    simp at given
  · have lengths := congrArg List.length gaveUp
    rw [List.length_map, List.length_map] at lengths
    rw [lengths]
    exact Option.length_toList_le

/-- What it means that the effort of a session is bounded. -/
structure Bounded (session : Session) : Prop where
  /-- It begins a read for each part of a longer banner that it waits through, and one more. -/
  reads : session.run.readCalls = session.waitedThrough.length + 1
  /-- Those are one more than the script has pieces, at most. -/
  pieces : session.run.readCalls ≤ Arrival.pieceTotal session.peer.arrivals + 1
  /-- Its writes take something each, but for one at most behind them, which fails or takes nothing.
  Together they are no more than the message has bytes. -/
  writes : ∃ taking last,
    (session.run.events.filter fun event => !event.isRead) = taking ++ last ∧
      (∀ event ∈ taking, event.written ≠ []) ∧ (∀ event ∈ last, event.written = []) ∧
      last.length ≤ 1 ∧ taking.length + last.length ≤ session.lastWord.length
  /-- It is over by its deadline, or when so many writes have waited from then on. -/
  finish : session.run.finish ≤
    session.deadline + session.peer.intake.delay * session.lastWord.length

/-- The effort of every session is bounded. -/
theorem bounded (session : Session) : session.Bounded where
  reads := session.readCalls_run
  pieces := by
    rw [readCalls_run]
    exact Nat.add_le_add_right session.length_waitedThrough_le 1
  writes := by
    rw [filter_not_isRead_run]
    exact session.exists_events_parting
  finish := by
    obtain ⟨taking, last, events, -, -, -, bound⟩ := session.exists_events_parting
    have count : (session.writes session.course).length ≤ session.lastWord.length := by
      rw [writes_course, events, List.length_append]
      exact bound
    rw [run_eq, finish_outcome]
    exact Nat.add_le_add session.within_course.finish (Nat.mul_le_mul_left _ count)

/-- Neither bound can be lower. A banner that does not end is read to its last piece, with one more read
that the deadline cuts off; and a peer that takes a byte with every write, but not the last byte, is
written to as often as the goodbye has bytes. -/
example :
    let endless : Session := ⟨.smtp, "probe", 9,
      ⟨[⟨0, .data (Utf8.encode "220-one\r\n")⟩, ⟨9, .data (Utf8.encode "220-two\r\n")⟩], .silent, {}⟩⟩
    let narrow : Session := ⟨.smtp, "probe", 9,
      ⟨[⟨0, .data (Utf8.encode "220 one\r\n")⟩], .silent, { chunk := some 1, capacity := some 5 }⟩⟩
    endless.run.readCalls = 3 ∧ Arrival.pieceTotal endless.peer.arrivals = 2 ∧
      (narrow.run.events.filter fun event => !event.isRead).length = 6 ∧
      narrow.lastWord.length = 6 := by
  decide +kernel

end Session

end ServiceProbe
