import Mathlib.Data.List.TakeWhile
import ServiceProbe.Proofs.Greeting.Deadline
import ServiceProbe.Proofs.Text.Lossy
import ServiceProbe.Proofs.Text.Quoted

/-!
# The account of a session

What the log tells of a session. It names every piece that was read, by the text that the received
bytes are shown as and by nothing of the buffer behind them, then the error with which a message was
given up, if one was, and then the reason why the session failed, if it did. It tells nothing else, so
the log of a session that succeeds and sends its message whole is the list of its reads.
-/

namespace ServiceProbe

/-- How many bytes a read got, if it got any. -/
def Event.received? (event : Event) : Option Nat :=
  match event.action with
  | .read (count + 1) => some (count + 1)
  | _ => none

/-- Nothing is received with a write. -/
theorem Event.received?_of_isRead_eq_false {event : Event} (h : event.isRead = false) :
    event.received? = none := by
  obtain ⟨time, action⟩ := event
  cases action with
  | read count => cases h
  | _ => rfl

/-- No message is given up with a read. -/
theorem Event.gaveUp?_of_isRead {event : Event} (h : event.isRead = true) :
    event.gaveUp? = none := by
  obtain ⟨time, action⟩ := event
  cases action with
  | read count => rfl
  | readFailed error => rfl
  | wrote bytes => cases h
  | writeFailed error => cases h

/-- What a read that got something received. -/
theorem Event.received?_read (time : Nat) {piece : List UInt8} (hp : piece ≠ []) :
    Event.received? ⟨time, .read piece.length⟩ = some piece.length := by
  obtain ⟨byte, rest, rfl⟩ := List.exists_cons_of_ne_nil hp
  rfl

namespace Course

/-- The pieces that were read, the last one included. -/
def heard (course : Course) : List (List UInt8) :=
  course.waited.map Prod.snd ++ course.ending.judged?.toList

/-- What is waited through are the pieces obtained in time, up to the first one that is no part of a
longer banner. -/
theorem map_snd_waited_reading (protocol : Protocol) (deadline : Nat) (tail : Tail)
    {script : List Arrival} (fits : ∀ arrival ∈ script, arrival.Fits) (now : Nat) :
    (reading protocol deadline tail now script).waited.map Prod.snd =
      (Arrival.obtained deadline script).takeWhile fun piece =>
        decide (Greeting.verdict? protocol piece = some .wait) := by
  fun_induction reading protocol deadline tail now script with
  | case1 now closed => rfl
  | case2 now silent => rfl
  | case3 now due delivery later late =>
    rw [Arrival.obtained_late late]
    rfl
  | case4 now due later early error => rfl
  | case5 now due later early => rfl
  | case6 now due later early piece hp hw ih =>
    obtain ⟨fitsHead, fitsLater⟩ := List.forall_mem_cons.mp fits
    rw [Arrival.obtained_piece (Nat.not_lt.mp early) hp (fitsHead _ rfl),
      List.takeWhile_cons_of_pos (by simpa using hw), ← ih fitsLater]
    rfl
  | case7 now due later early piece hp hw =>
    obtain ⟨fitsHead, -⟩ := List.forall_mem_cons.mp fits
    rw [Arrival.obtained_piece (Nat.not_lt.mp early) hp (fitsHead _ rfl),
      List.takeWhile_cons_of_neg (by simpa using hw)]
    rfl

/-- The reads of a course that got something got the pieces that it heard. -/
theorem filterMap_received?_reads {course : Course} (h : ∀ piece ∈ course.heard, piece ≠ []) :
    course.reads.filterMap Event.received? = course.heard.map List.length := by
  obtain ⟨waited, last⟩ := List.forall_mem_append.mp h
  have first : (course.waited.map fun read => (⟨read.1, .read read.2.length⟩ : Event)).filterMap
      Event.received? = (course.waited.map Prod.snd).map List.length := by
    rw [List.filterMap_map, List.map_map, ← List.filterMap_eq_map]
    apply List.filterMap_congr
    intro read hm
    exact Event.received?_read _ (waited _ (List.mem_map_of_mem hm))
  rw [reads, heard, List.filterMap_append, List.map_append, first]
  cases he : course.ending with
  | judged piece =>
    rw [he] at last
    have some := Event.received?_read course.finish (last piece (List.mem_singleton_self _))
    simp [Ending.judged?, some]
  | closed => rfl
  | broken error => rfl
  | expired => rfl

end Course

namespace Session

/-- The parts of a longer banner that a session waits through. -/
def waitedThrough (session : Session) : List (List UInt8) :=
  (Arrival.obtained session.deadline session.peer.arrivals).takeWhile fun piece =>
    decide (Greeting.verdict? session.protocol piece = some .wait)

/-- The pieces that a session reads: those obtained by its deadline, up to the deciding one. -/
def heard (session : Session) : List (List UInt8) :=
  session.waitedThrough ++ session.decisive?.toList

/-- What a session has for its peer when its reading is over, and what comes of it. -/
def parting (session : Session) : Sending :=
  session.peer.intake.send session.course.finish 0 session.lastWord

/-- Why a session fails, if it does. -/
def reason? (session : Session) : Option Notice :=
  match session.course.ending with
  | .judged piece => if session.admits piece then none else some (.contentRefused piece)
  | .closed => some .closedByPeer
  | .broken error => some (.cannotRead error)
  | .expired => some .deadlineExceeded

/-- The reading waits through the parts of a longer banner. -/
theorem map_snd_waited_course (session : Session) :
    session.course.waited.map Prod.snd = session.waitedThrough := by
  rw [course, Course.map_snd_waited_reading _ _ _ session.peer.fits_script, Peer.script,
    Arrival.obtained_flatMap_pieces, waitedThrough]

/-- The reading hears what the session does. -/
theorem heard_course (session : Session) : session.course.heard = session.heard := by
  rw [Course.heard, map_snd_waited_course, judged?_course, heard]

/-- What is heard comes first of what is obtained. -/
theorem heard_prefix (session : Session) :
    session.heard <+: Arrival.obtained session.deadline session.peer.arrivals := by
  have first : session.decisive? =
      ((Arrival.obtained session.deadline session.peer.arrivals).dropWhile fun piece =>
        decide (Greeting.verdict? session.protocol piece = some .wait)).head? := by
    rw [decisive?, List.find?_eq_head?_dropWhile_not]
    simp only [ne_eq, decide_not, Bool.not_not]
  have whole := List.takeWhile_append_dropWhile
    (p := fun piece => decide (Greeting.verdict? session.protocol piece = some .wait))
    (l := Arrival.obtained session.deadline session.peer.arrivals)
  rw [heard, first, ← List.take_one]
  conv_rhs => rw [← whole]
  exact (List.prefix_append_right_inj _).mpr (List.take_prefix 1 _)

/-- No piece that is heard is empty. -/
theorem ne_nil_of_mem_heard {session : Session} {piece : List UInt8}
    (hm : piece ∈ session.heard) : piece ≠ [] :=
  Arrival.ne_nil_of_mem_obtained (session.heard_prefix.subset hm)

/-- What is sent on a piece is its message, or nothing if it has none. -/
theorem fst_sending (session : Session) (time : Nat) (piece : List UInt8) :
    (session.sending time piece).1 =
      session.peer.intake.send time 0 (((session.message? piece).map Utf8.encode).getD []) := by
  unfold sending Greeting.say
  cases session.message? piece with
  | none => rw [Option.map_none, Option.getD_none, Intake.send, if_pos rfl]
  | some message => rfl

/-- The log is told why the message was given up, if it was. -/
theorem snd_sending (session : Session) (time : Nat) (piece : List UInt8) :
    (session.sending time piece).2 =
      (session.sending time piece).1.failure.toList.map session.unsent := by
  unfold sending Greeting.say
  cases session.message? piece with
  | none => rfl
  | some message => rfl

/-- What is sent is sent on the piece that the reading ends with. -/
theorem parting_of_judged {session : Session} {piece : List UInt8}
    (h : session.course.ending = .judged piece) :
    session.parting = (session.sending session.course.finish piece).1 := by
  rw [fst_sending, parting, lastWord_eq, ← judged?_course, h]
  rfl

/-- Nothing is sent if the reading ends without such a piece. -/
theorem parting_of_not_judged {session : Session} (h : session.course.ending.judged? = none) :
    session.parting = ⟨session.course.finish, [], none⟩ := by
  have nothing : session.lastWord = [] := by
    rw [lastWord_eq, ← judged?_course, h]
    rfl
  rw [parting, nothing, Intake.send, if_pos rfl]

/-- The writes of a session are those of its parting. -/
theorem writes_course (session : Session) :
    session.writes session.course = session.parting.events := by
  unfold writes
  cases he : session.course.ending with
  | judged piece => rw [parting_of_judged he]
  | _ => rw [parting_of_not_judged (by rw [he]; rfl)]

/-- The log of a run is what was heard, why the message was given up, and why the session failed. -/
theorem log_run (session : Session) :
    session.run.log = session.heard.map (.greetingRead session.protocol) ++
      session.parting.failure.toList.map session.unsent ++ session.reason?.toList := by
  rw [run_eq, ← heard_course, Course.heard, outcome, reason?, List.map_append, List.map_map]
  cases he : session.course.ending with
  | judged piece =>
    rw [parting_of_judged he, ← snd_sending]
    by_cases admitted : session.admits piece = true
    · simp [Outcome.after, conclude, Ending.judged?, admitted]
    · simp [Outcome.after, conclude, Ending.judged?, admitted]
  | _ =>
    rw [parting_of_not_judged (by rw [he]; rfl)]
    simp [Outcome.after, fail, Ending.judged?]

/-- The events of a run are the reads of its course and the writes of its parting. -/
theorem events_run_parting (session : Session) :
    session.run.events = session.course.reads ++ session.parting.events := by
  rw [events_run, writes_course]

/-- The reads of a run that got something got the pieces that it heard. -/
theorem filterMap_received?_run (session : Session) :
    session.run.events.filterMap Event.received? = session.heard.map List.length := by
  have some : ∀ piece ∈ session.course.heard, piece ≠ [] := by
    rw [heard_course]
    exact fun piece hm => ne_nil_of_mem_heard hm
  have none : session.parting.events.filterMap Event.received? = [] := by
    rw [List.filterMap_eq_nil_iff]
    intro event hm
    exact Event.received?_of_isRead_eq_false (Intake.isRead_send _ _ _ _ event hm)
  rw [events_run_parting, List.filterMap_append, none, List.append_nil,
    Course.filterMap_received?_reads some, heard_course]

/-- Why a run gave its message up is told by its events. -/
theorem filterMap_gaveUp?_run (session : Session) :
    session.run.events.filterMap Event.gaveUp? = session.parting.failure.toList := by
  have none : session.course.reads.filterMap Event.gaveUp? = [] := by
    rw [List.filterMap_eq_nil_iff]
    intro event hm
    exact Event.gaveUp?_of_isRead (session.course.isRead_reads event hm)
  rw [events_run_parting, List.filterMap_append, none, List.nil_append, parting,
    Intake.filterMap_gaveUp?_send]

/-- The peer takes what it takes of the parting. -/
theorem taken_run_parting (session : Session) :
    session.run.taken = session.parting.events.flatMap Event.written := by
  rw [Outcome.taken, events_run_parting, List.flatMap_append, Course.flatMap_written_reads,
    List.nil_append]

/-- The message is not given up if and only if the peer takes all of it. -/
theorem failure_parting_eq_none_iff (session : Session) :
    session.parting.failure = none ↔ session.run.taken = session.lastWord := by
  rw [taken_run_parting, parting, Intake.failure_send_eq_none_iff]

/-- A session fails if and only if there is a reason. -/
theorem isSome_reason?_iff (session : Session) :
    session.reason?.isSome = true ↔ session.run.up = false := by
  rw [run_up_eq, ← judged?_course, reason?]
  cases session.course.ending with
  | judged piece =>
    by_cases admitted : session.admits piece = true
    · simp [Ending.judged?, admitted]
    · simp [Ending.judged?, admitted]
  | _ => simp [Ending.judged?]

/-- The reason of a failure is how the reading ended, or that the last piece was not admitted. -/
theorem reason?_eq_some_iff {session : Session} {notice : Notice} :
    session.reason? = some notice ↔
      (∃ piece, session.course.ending = .judged piece ∧ session.admits piece = false ∧
        .contentRefused piece = notice) ∨
      session.course.ending = .closed ∧ .closedByPeer = notice ∨
      (∃ error, session.course.ending = .broken error ∧ .cannotRead error = notice) ∨
      session.course.ending = .expired ∧ .deadlineExceeded = notice := by
  unfold reason?
  cases session.course.ending with
  | judged piece => cases admitted : session.admits piece <;> simp [admitted]
  | closed => simp
  | broken error => simp
  | expired => simp

/-- A session fails for a piece if and only if that is the deciding one and it is refused. -/
theorem reason?_eq_contentRefused_iff {session : Session} {piece : List UInt8} :
    session.reason? = some (.contentRefused piece) ↔
      session.decisive? = some piece ∧
        Greeting.verdict? session.protocol piece = some .refuse := by
  have refused : session.admits piece = false ↔
      Greeting.verdict? session.protocol piece = some .refuse := by
    simp [admits]
  rw [← judged?_course, reason?_eq_some_iff, ← refused]
  cases session.course.ending with
  | judged last =>
    simp only [Ending.judged?, Option.some.injEq]
    constructor
    · rintro (⟨judged, ended, down, same⟩ | ⟨ended, -⟩ | ⟨_, ended, -⟩ | ⟨ended, -⟩)
      · cases ended
        cases same
        exact ⟨rfl, down⟩
      · cases ended
      · cases ended
      · cases ended
    · rintro ⟨rfl, down⟩
      exact .inl ⟨last, rfl, down, rfl⟩
  | _ => simp [Ending.judged?]

/-- A read that is not one of a piece is the last of a run. -/
theorem mem_events_run_iff_last {session : Session} {event : Event} (read : event.isRead = true)
    (none : event.received? = none) :
    event ∈ session.run.events ↔
      session.course.ending = .closed ∧ event = ⟨session.course.finish, .read 0⟩ ∨
        ∃ error, session.course.ending = .broken error ∧
          event = ⟨session.course.finish, .readFailed error⟩ := by
  have some : ∀ time, ∀ piece ∈ session.course.heard,
      event ≠ ⟨time, .read (List.length piece)⟩ := by
    rintro time piece hm rfl
    rw [heard_course] at hm
    rw [Event.received?_read time (ne_nil_of_mem_heard hm)] at none
    cases none
  have waited : event ∉ session.course.waited.map
      fun read => (⟨read.1, .read read.2.length⟩ : Event) := by
    intro hm
    obtain ⟨read, hr, rfl⟩ := List.mem_map.mp hm
    exact some _ _ (List.mem_append_left _ (List.mem_map_of_mem hr)) rfl
  rw [mem_events_run_iff read, Course.reads, List.mem_append, or_iff_right waited]
  cases he : session.course.ending with
  | judged piece =>
    have last := some session.course.finish piece
      (List.mem_append_right _ (by simp [he, Ending.judged?]))
    simp [last]
  | closed => simp
  | broken error => simp
  | expired => simp

/-- A session fails for the end of the stream if and only if a read gets nothing. -/
theorem reason?_eq_closedByPeer_iff {session : Session} :
    session.reason? = some .closedByPeer ↔ ∃ time, ⟨time, .read 0⟩ ∈ session.run.events := by
  have ended : session.reason? = some .closedByPeer ↔ session.course.ending = .closed := by
    simp [reason?_eq_some_iff]
  rw [ended]
  constructor
  · intro closed
    exact ⟨_, (mem_events_run_iff_last rfl rfl).mpr (.inl ⟨closed, rfl⟩)⟩
  · rintro ⟨time, hm⟩
    obtain ⟨closed, -⟩ | ⟨error, -, other⟩ := (mem_events_run_iff_last rfl rfl).mp hm
    · exact closed
    · cases other

/-- It fails for an error of reading if and only if a read fails with it. -/
theorem reason?_eq_cannotRead_iff {session : Session} {error : IoError} :
    session.reason? = some (.cannotRead error) ↔
      ∃ time, ⟨time, .readFailed error⟩ ∈ session.run.events := by
  have ended : session.reason? = some (.cannotRead error) ↔
      session.course.ending = .broken error := by
    simp [reason?_eq_some_iff]
  rw [ended]
  constructor
  · intro broken
    exact ⟨_, (mem_events_run_iff_last rfl rfl).mpr (.inr ⟨error, broken, rfl⟩)⟩
  · rintro ⟨time, hm⟩
    obtain ⟨-, other⟩ | ⟨last, broken, same⟩ := (mem_events_run_iff_last rfl rfl).mp hm
    · cases other
    · cases same
      exact broken

/-- It fails for the deadline if and only if it waits through every piece obtained in time and then
finds nothing. -/
theorem reason?_eq_deadlineExceeded_iff {session : Session} :
    session.reason? = some .deadlineExceeded ↔
      (∀ piece ∈ Arrival.obtained session.deadline session.peer.arrivals,
        Greeting.verdict? session.protocol piece = some .wait) ∧
      Arrival.starves session.deadline session.peer.tail
        (Arrival.left session.deadline session.peer.arrivals) := by
  rw [← expired_course_iff]
  simp [reason?_eq_some_iff]

/-- What it means that the log of a session explains its answer. -/
structure Explained (session : Session) : Prop where
  /-- The log tells of each piece that was heard, in order, then of the write with which the message was
  given up, if it was, then of the reason of a failure, if it is one, and of nothing else. -/
  whole : session.run.log = session.heard.map (.greetingRead session.protocol) ++
    (session.run.events.filterMap Event.gaveUp?).map session.unsent ++ session.reason?.toList
  /-- What was heard are received pieces, the first ones obtained by the deadline, without anything of
  the buffer behind them, -/
  received : session.heard <+: Arrival.obtained session.deadline session.peer.arrivals
  /-- and one for each read that got something. -/
  reads : session.run.events.filterMap Event.received? = session.heard.map List.length
  /-- Put together they are a front of the bytes that the peer sends, with nothing in between. -/
  unpadded : session.heard.flatten <+:
    session.peer.arrivals.flatMap fun arrival => arrival.delivery.bytes
  /-- Each of them is told on the lowest level, by the number of its bytes and by the one text that they
  are shown as, a replacement standing for each broken part. There the text is spelled between quotes, in
  the one way to do so; in the reason of a refusal it stands as it is. -/
  shown : ∀ piece, ∃ text quoted : String,
    (∀ other, Utf8.Shows piece other ↔ other = text.toList) ∧
    (∀ other, Quoted.Shows text.toList other ↔ other = quoted.toList) ∧
    (Notice.greetingRead session.protocol piece).level = .trace ∧
    (Notice.greetingRead session.protocol piece).message = "greeting: " ++ quoted ∧
    (Notice.greetingRead session.protocol piece).fields =
      [("protocol", session.protocol.tag), ("received", toString piece.length)] ∧
    (Notice.contentRefused piece).message =
      "TCP expect content error, received [" ++ text ++ "]"
  /-- There is at most one write with which the message was given up, -/
  once : (session.run.events.filterMap Event.gaveUp?).length ≤ 1
  /-- and none if and only if the peer has taken the whole message. -/
  sent : session.run.events.filterMap Event.gaveUp? = [] ↔ session.run.taken = session.lastWord
  /-- The log tells a reason if and only if the session fails. -/
  failed : session.reason?.isSome = true ↔ session.run.up = false
  /-- The reason is that the peer closed if and only if a read got nothing, -/
  closed : session.reason? = some .closedByPeer ↔
    ∃ time, ⟨time, .read 0⟩ ∈ session.run.events
  /-- an error of reading if and only if a read failed with that error, -/
  broken : ∀ error, session.reason? = some (.cannotRead error) ↔
    ∃ time, ⟨time, .readFailed error⟩ ∈ session.run.events
  /-- the deadline if and only if every piece obtained by then was a part of a longer banner and nothing
  else came, -/
  expired : session.reason? = some .deadlineExceeded ↔
    (∀ piece ∈ Arrival.obtained session.deadline session.peer.arrivals,
      Greeting.verdict? session.protocol piece = some .wait) ∧
    Arrival.starves session.deadline session.peer.tail
      (Arrival.left session.deadline session.peer.arrivals)
  /-- and the content of a piece if and only if that is the deciding one and the rule of the protocol
  refuses it. -/
  refused : ∀ piece, session.reason? = some (.contentRefused piece) ↔
    session.decisive? = some piece ∧ Greeting.verdict? session.protocol piece = some .refuse
  /-- There is no other reason. -/
  reasons : ∀ notice, session.reason? = some notice →
    notice = .closedByPeer ∨ (∃ error, notice = .cannotRead error) ∨
      notice = .deadlineExceeded ∨ ∃ piece, notice = .contentRefused piece
  /-- What went wrong is told on the level of reasons. -/
  debug : (∀ error, (session.unsent error).level = .debug) ∧
    ∀ notice, session.reason? = some notice → notice.level = .debug

/-- The log of every session explains its answer. -/
theorem explained (session : Session) : session.Explained where
  whole := by rw [log_run, filterMap_gaveUp?_run]
  received := session.heard_prefix
  reads := session.filterMap_received?_run
  unpadded := (List.IsPrefix.flatten session.heard_prefix).trans
    (Arrival.flatten_obtained_prefix session.deadline session.peer.arrivals)
  shown := by
    intro piece
    refine ⟨Utf8.decodeLossy piece, Quoted.text (Utf8.decodeLossy piece), ?_, ?_, rfl, rfl, rfl,
      rfl⟩
    · exact fun _ => Utf8.shows_iff
    · exact fun _ => Quoted.shows_iff
  once := by
    rw [filterMap_gaveUp?_run]
    cases session.parting.failure <;> simp
  sent := by
    rw [filterMap_gaveUp?_run, Option.toList_eq_nil_iff, failure_parting_eq_none_iff]
  failed := session.isSome_reason?_iff
  closed := reason?_eq_closedByPeer_iff
  broken := fun _ => reason?_eq_cannotRead_iff
  expired := reason?_eq_deadlineExceeded_iff
  refused := fun _ => reason?_eq_contentRefused_iff
  reasons := by
    intro notice told
    obtain ⟨piece, -, -, rfl⟩ | ⟨-, rfl⟩ | ⟨error, -, rfl⟩ | ⟨-, rfl⟩ :=
      reason?_eq_some_iff.mp told
    · exact .inr (.inr (.inr ⟨piece, rfl⟩))
    · exact .inl rfl
    · exact .inr (.inl ⟨error, rfl⟩)
    · exact .inr (.inr (.inl rfl))
  debug := by
    constructor
    · intro error
      unfold unsent
      cases session.protocol <;> rfl
    · intro notice told
      obtain ⟨piece, -, -, rfl⟩ | ⟨-, rfl⟩ | ⟨error, -, rfl⟩ | ⟨-, rfl⟩ :=
        reason?_eq_some_iff.mp told
      all_goals rfl

/-- A secure-shell server whose banner is refused, and which takes nothing of the answer: the write that
took nothing is told before the refusal. -/
example :
    let session : Session := ⟨.ssh, "probe", 9,
      ⟨[⟨0, .data (Utf8.encode "hello\r\n")⟩], .closed, { chunk := some 0 }⟩⟩
    session.run.log =
      [.greetingRead .ssh (Utf8.encode "hello\r\n"), .identificationNotSent .writeZero,
        .contentRefused (Utf8.encode "hello\r\n")] := by
  decide +kernel

end Session

end ServiceProbe
