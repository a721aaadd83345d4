import ServiceProbe.Proofs.Greeting.Course
import ServiceProbe.Proofs.Greeting.Version
import ServiceProbe.Proofs.Peer.Delivery
import ServiceProbe.Proofs.Text.Ascii

/-!
# Dialogue

What reaches the peer in a session. It is read from until nothing more will be read, and then it
is sent one message at most: in secure shell the answer to the deciding piece, and in the other
protocols the goodbye after an accepted one. However the peer takes it, it gets the front of
that message. Since the reading is over when the writing begins, nothing that is written, or
fails to be, has a say in what was read or in the answer.
-/

namespace ServiceProbe

/-- The reads of a course, the last one included. -/
def Course.reads (course : Course) : List Event :=
  (course.waited.map fun read => ⟨read.1, .read read.2.length⟩) ++
    match course.ending with
    | .judged piece => [⟨course.finish, .read piece.length⟩]
    | .closed => [⟨course.finish, .read 0⟩]
    | .broken error => [⟨course.finish, .readFailed error⟩]
    | .expired => []

/-- A read of a course got a part of a longer banner, or it is the last one. -/
theorem Course.mem_reads {course : Course} {event : Event} (h : event ∈ course.reads) :
    (∃ read ∈ course.waited, event = ⟨read.1, .read read.2.length⟩) ∨
      event.time = course.finish ∧ event.isRead = true := by
  rcases List.mem_append.mp h with hm | hm
  · obtain ⟨read, hr, rfl⟩ := List.mem_map.mp hm
    exact .inl ⟨read, hr, rfl⟩
  · cases he : course.ending with
    | expired => simp [he] at hm
    | _ =>
      simp only [he, List.mem_singleton] at hm
      rw [hm]
      exact .inr ⟨rfl, rfl⟩

/-- The reads of a course are only reads. -/
theorem Course.isRead_reads (course : Course) :
    ∀ event ∈ course.reads, event.isRead = true := by
  intro event hm
  obtain ⟨read, -, rfl⟩ | ⟨-, last⟩ := course.mem_reads hm
  · rfl
  · exact last

/-- Reads carry nothing to the peer. -/
theorem Event.written_of_isRead {event : Event} (h : event.isRead = true) :
    event.written = [] := by
  obtain ⟨time, action⟩ := event
  cases action with
  | read count => rfl
  | readFailed error => rfl
  | wrote bytes => cases h
  | writeFailed error => cases h

/-- The reads of a course carry nothing to the peer. -/
theorem Course.flatMap_written_reads (course : Course) :
    course.reads.flatMap Event.written = [] := by
  rw [List.flatMap_eq_nil_iff]
  intro event hm
  exact Event.written_of_isRead (course.isRead_reads event hm)

/-- The numbers of an identification are written in digits. -/
theorem SshVersion.identification_eq (version : SshVersion) (agentName : String) :
    version.identification agentName =
      "SSH-" ++ toString version.major.val ++ "." ++ toString version.minor.val ++ "-" ++
        agentName ++ "\r\n" := by
  rw [identification, Decimal.digits, Decimal.digits, Nat.toString_eq_ofList_toDigits,
    Nat.toString_eq_ofList_toDigits]

namespace Session

/-- What the peer has taken when a session is over. -/
def Outcome.taken (outcome : Outcome) : List UInt8 := outcome.events.flatMap Event.written

/-- The writes of a session with a given course. -/
def writes (session : Session) (course : Course) : List Event :=
  match course.ending with
  | .judged piece => (session.sending course.finish piece).1.events
  | _ => []

/-- The dealings with the peer are first its reads and then its writes. -/
theorem events_outcome (session : Session) (course : Course) :
    (session.outcome course).events = course.reads ++ session.writes course := by
  unfold outcome Course.reads writes
  cases course.ending with
  | judged piece => simp [Outcome.after, conclude]
  | closed => simp [Outcome.after, fail]
  | broken error => simp [Outcome.after, fail]
  | expired => simp [Outcome.after, fail]

/-- What is sent on a piece is written and nothing else. -/
theorem isRead_sending (session : Session) (time : Nat) (piece : List UInt8) :
    ∀ event ∈ (session.sending time piece).1.events, event.isRead = false := by
  unfold sending Greeting.say
  cases session.message? piece with
  | none => simp
  | some message => exact Intake.isRead_send _ _ _ _

/-- The writes of a session are only writes. -/
theorem isRead_writes (session : Session) (course : Course) :
    ∀ event ∈ session.writes course, event.isRead = false := by
  unfold writes
  cases course.ending with
  | judged piece => exact session.isRead_sending _ _
  | _ => simp

/-- The events of a run are the reads of its course and then its writes. -/
theorem events_run (session : Session) :
    session.run.events = session.course.reads ++ session.writes session.course := by
  rw [run_eq, events_outcome]

/-- The reads of a run are those of its course. -/
theorem filter_isRead_run (session : Session) :
    session.run.events.filter Event.isRead = session.course.reads := by
  have writes : ∀ event ∈ session.writes session.course, ¬ event.isRead = true := by
    intro event hm
    rw [session.isRead_writes _ event hm]
    exact Bool.false_ne_true
  rw [events_run, List.filter_append, List.filter_eq_self.mpr session.course.isRead_reads,
    List.filter_eq_nil_iff.mpr writes, List.append_nil]

/-- Of the message on a piece the peer takes the front, as long as its allowance. -/
theorem written_sending (session : Session) (time : Nat) {piece message : List UInt8}
    (hm : message = ((session.message? piece).map Utf8.encode).getD []) :
    (session.sending time piece).1.events.flatMap Event.written =
      message.take (session.peer.intake.allowance 0 message.length) := by
  subst hm
  unfold sending Greeting.say
  cases session.message? piece with
  | none => simp
  | some text => exact Intake.written_send _ _ _ _

/-- Of the message that the course ends with the peer takes the front. -/
theorem written_writes (session : Session) (course : Course) {message : List UInt8}
    (hm : message = ((course.ending.judged?.bind session.message?).map Utf8.encode).getD []) :
    (session.writes course).flatMap Event.written =
      message.take (session.peer.intake.allowance 0 message.length) := by
  unfold writes
  cases he : course.ending with
  | judged piece =>
    rw [he] at hm
    exact session.written_sending _ hm
  | _ =>
    have hn : message = [] := by rw [hm, he]; rfl
    rw [hn, List.take_nil]
    rfl

/-- The one message that a session has for its peer, as text. In secure shell it answers the deciding
piece: in the version of that piece if there is one, and with a reject line if not. In the other
protocols that greet it is the goodbye, and only if the deciding piece is accepted. Without such a piece
there is none. -/
def lastLine (session : Session) : String :=
  match session.decisive? with
  | none => ""
  | some piece =>
    match session.protocol with
    | .tcp | .http => ""
    | .ssh =>
      match SshVersion.ofBanner? piece with
      | some version =>
        "SSH-" ++ toString version.major.val ++ "." ++ toString version.minor.val ++ "-" ++
          session.agentName ++ "\r\n"
      | none => "0\n"
    | .smtp | .ftp | .pop | .nntp =>
      if Greeting.verdict? session.protocol piece = some .accept then "QUIT\r\n" else ""
    | .imap =>
      if Greeting.verdict? session.protocol piece = some .accept then "a1 LOGOUT\r\n" else ""

/-- The bytes of the one message. -/
def lastWord (session : Session) : List UInt8 := session.lastLine.toUTF8.data.toList

/-- The message of a session is the one of its deciding piece. -/
theorem lastLine_eq (session : Session) :
    session.lastLine = (session.decisive?.bind session.message?).getD "" := by
  unfold lastLine
  cases session.decisive? with
  | none => rfl
  | some piece =>
    rw [Option.bind_some, message?]
    have goodbye (protocol : Protocol) (line : String) (h : protocol.goodbye? = some line) :
        (if Greeting.verdict? protocol piece = some .accept then line else "") =
          (if Greeting.verdict? protocol piece = some .accept then protocol.goodbye?
            else none).getD "" := by
      rw [h]
      split <;> rfl
    cases hp : session.protocol with
    | tcp => rfl
    | http => rfl
    | ssh =>
      dsimp only [Greeting.sshAnswer, Option.getD_some]
      cases SshVersion.ofBanner? piece with
      | none => rfl
      | some version => exact (version.identification_eq session.agentName).symm
    | _ => exact goodbye _ _ rfl

/-- So it is byte by byte. -/
theorem lastWord_eq (session : Session) :
    session.lastWord =
      ((session.decisive?.bind session.message?).map Utf8.encode).getD [] := by
  rw [lastWord, ← Utf8.encode_eq_toUTF8, lastLine_eq]
  cases session.decisive?.bind session.message? <;> rfl

/-- The peer takes the front of the one message, as long as its allowance. -/
theorem taken_run (session : Session) :
    session.run.taken =
      session.lastWord.take (session.peer.intake.allowance 0 session.lastWord.length) := by
  have message := session.lastWord_eq
  rw [← judged?_course] at message
  rw [Outcome.taken, run_eq, events_outcome, List.flatMap_append, Course.flatMap_written_reads,
    List.nil_append]
  exact session.written_writes session.course message

/-- In secure shell the message tells the numbers of an opening that the deciding piece is. -/
theorem lastLine_of_opening {session : Session} (ssh : session.protocol = .ssh)
    {piece : List UInt8} (deciding : session.decisive? = some piece)
    {opening : SshVersion.Opening} (opens : opening.Of piece)
    (major : opening.major < UInt32.size) (minor : opening.minor < UInt32.size) :
    session.lastLine = "SSH-" ++ toString opening.major ++ "." ++ toString opening.minor ++ "-" ++
      session.agentName ++ "\r\n" := by
  have read : SshVersion.ofBanner? piece = some ⟨⟨_, major⟩, ⟨_, minor⟩⟩ :=
    SshVersion.ofBanner?_eq_some_iff_opening.mpr ⟨opening, opens, rfl, rfl⟩
  simp only [lastLine, deciding, ssh, read]

/-- It is the reject line if the deciding piece is no opening, or one with a number that is too
large. -/
theorem lastLine_of_forall_opening {session : Session} (ssh : session.protocol = .ssh)
    {piece : List UInt8} (deciding : session.decisive? = some piece)
    (large : ∀ opening : SshVersion.Opening, opening.Of piece →
      UInt32.size ≤ opening.major ∨ UInt32.size ≤ opening.minor) :
    session.lastLine = "0\n" := by
  have unread := SshVersion.ofBanner?_eq_none_iff_opening.mpr large
  simp only [lastLine, deciding, ssh, unread]

/-- What it means that a session reads first and writes afterwards. -/
structure ReadsThenWrites (session : Session) : Prop where
  /-- First there are its reads and then its writes. -/
  order : ∃ reads writes, session.run.events = reads ++ writes ∧
    (∀ event ∈ reads, event.isRead = true) ∧ ∀ event ∈ writes, event.isRead = false
  /-- What the peer takes is the front of the one message, -/
  front : session.run.taken <+: session.lastWord
  /-- all that there is room for, or nothing if its writes take nothing. -/
  length : session.run.taken.length =
    if session.peer.intake.chunk = some 0 then 0
    else min session.lastWord.length
      (session.peer.intake.capacity.getD session.lastWord.length)
  /-- In secure shell the message is a line with the numbers of the opening that the deciding piece
  is, if they have 32 bits, -/
  answered : session.protocol = .ssh → ∀ piece, session.decisive? = some piece →
    ∀ opening : SshVersion.Opening, opening.Of piece →
      opening.major < UInt32.size → opening.minor < UInt32.size →
        session.lastLine = "SSH-" ++ toString opening.major ++ "." ++ toString opening.minor ++
          "-" ++ session.agentName ++ "\r\n"
  /-- and it is the reject line if there is no such opening. -/
  rejected : session.protocol = .ssh → ∀ piece, session.decisive? = some piece →
    (∀ opening : SshVersion.Opening, opening.Of piece →
      UInt32.size ≤ opening.major ∨ UInt32.size ≤ opening.minor) → session.lastLine = "0\n"

/-- Every session reads first and writes afterwards, and the peer takes the front of one message. -/
theorem run_reads_then_writes (session : Session) : session.ReadsThenWrites where
  order := by
    refine ⟨session.course.reads, session.writes session.course, session.events_run,
      session.course.isRead_reads, session.isRead_writes _⟩
  front := by
    rw [taken_run]
    exact List.take_prefix _ _
  length := by
    rw [taken_run, List.length_take, Intake.allowance, Intake.room, Nat.zero_add, Nat.sub_zero]
    by_cases hc : session.peer.intake.chunk = some 0
    · rw [if_pos hc, Nat.zero_min]
    · rw [if_neg hc, Nat.min_eq_left (Nat.min_le_left _ _)]
  answered := fun ssh _ deciding _ opens => lastLine_of_opening ssh deciding opens
  rejected := fun ssh _ deciding => lastLine_of_forall_opening ssh deciding

/-- A session under another agent name, whose peer takes in another way what is written to it. -/
def withWriting (session : Session) (agentName : String) (intake : Intake) : Session :=
  { session with agentName := agentName, peer := { session.peer with intake := intake } }

/-- The reading of a session knows nothing of its writing. -/
theorem course_withWriting (session : Session) (agentName : String) (intake : Intake) :
    (session.withWriting agentName intake).course = session.course := rfl

/-- What is written while a buffer is judged has no say in the verdict. -/
theorem map_verdict_judge (protocol : Protocol) (agentName : String) (intake : Intake)
    (time : Nat) (buffer : List UInt8) :
    (Greeting.judge protocol agentName intake time buffer).map Judgement.verdict =
      Greeting.verdict? protocol buffer := by
  rw [Greeting.judge, Option.map_map]
  exact Option.map_id'

/-- Whatever becomes of what a session writes, and under whatever agent name, it comes to the same
answer by the same reads at the same times; and so it is with the judgement of any buffer. -/
theorem run_withWriting (session : Session) (agentName : String) (intake : Intake) :
    (session.withWriting agentName intake).run.up = session.run.up ∧
      (session.withWriting agentName intake).run.events.filter Event.isRead =
        session.run.events.filter Event.isRead ∧
      ∀ (time : Nat) (buffer : List UInt8),
        (Greeting.judge session.protocol agentName intake time buffer).map Judgement.verdict =
          (Greeting.judge session.protocol session.agentName session.peer.intake time
            buffer).map Judgement.verdict := by
  refine ⟨?_, ?_, ?_⟩
  · have decisive : (session.withWriting agentName intake).decisive? = session.decisive? := rfl
    rw [run_up_eq, run_up_eq, decisive]
    rfl
  · rw [filter_isRead_run, filter_isRead_run, course_withWriting]
  · intro time buffer
    rw [map_verdict_judge, map_verdict_judge]

end Session

end ServiceProbe
