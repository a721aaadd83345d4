import ServiceProbe.Proofs.Greeting.Padding
import ServiceProbe.Proofs.Peer.Pieces

/-!
# The course of a session

The reading of a session apart from all writing: which pieces were waited through, when the
reading ended, and how. A course depends on the protocol, the deadline and what the peer sends,
and on nothing else. A whole session is its course followed by what one last piece gives rise
to, so what holds of every run is read off the course, and the loop is opened here once.
-/

namespace ServiceProbe

/-- How the reading of a session ends. -/
inductive Ending where
  /-- With a piece that is no part of a longer banner. -/
  | judged (piece : List UInt8)
  /-- With the end of the stream. -/
  | closed
  /-- With an error. -/
  | broken (error : IoError)
  /-- With the deadline. -/
  | expired

/-- The piece that the rules judged last, if the reading ended with one. -/
def Ending.judged? : Ending → Option (List UInt8)
  | judged piece => some piece
  | _ => none

/-- The reading of a session. -/
structure Course where
  /-- The parts of a longer banner with the times of their reads, in order. -/
  waited : List (Nat × List UInt8)
  /-- When the reading ended. -/
  finish : Nat
  /-- How it ended. -/
  ending : Ending

namespace Course

/-- A course with a part of a longer banner before it. -/
def after (course : Course) (time : Nat) (piece : List UInt8) : Course :=
  { course with waited := (time, piece) :: course.waited }

/-- The course from time `now` on, of reads that find `script` and then the tail of the peer. The
rules judge the received bytes alone. -/
def reading (protocol : Protocol) (deadline : Nat) (tail : Tail) (now : Nat) :
    List Arrival → Course
  | [] =>
    match tail with
    | .closed => ⟨[], now, .closed⟩
    | .silent => ⟨[], deadline, .expired⟩
  | ⟨due, delivery⟩ :: later =>
    if deadline < due then ⟨[], deadline, .expired⟩
    else
      match delivery with
      | .failure error => ⟨[], max now due, .broken error⟩
      | .data [] => ⟨[], max now due, .closed⟩
      | .data piece =>
        if Greeting.verdict? protocol piece = some .wait then
          (reading protocol deadline tail (max now due) later).after (max now due) piece
        else ⟨[], max now due, .judged piece⟩

/-- A piece in time is read when it is due, or at once if that is past. -/
theorem reading_piece {protocol : Protocol} {deadline due : Nat} (early : ¬ deadline < due)
    {piece : List UInt8} (hp : piece ≠ []) (tail : Tail) (now : Nat) (later : List Arrival) :
    reading protocol deadline tail now (⟨due, .data piece⟩ :: later) =
      if Greeting.verdict? protocol piece = some .wait then
        (reading protocol deadline tail (max now due) later).after (max now due) piece
      else ⟨[], max now due, .judged piece⟩ := by
  rw [reading, if_neg early]
  exact hp

/-- The reading ends with the first piece obtained in time that is no part of a longer banner, and
with no piece if there is none. -/
theorem judged?_reading (protocol : Protocol) (deadline : Nat) (tail : Tail)
    {script : List Arrival} (fits : ∀ arrival ∈ script, arrival.Fits) (now : Nat) :
    (reading protocol deadline tail now script).ending.judged? =
      (Arrival.obtained deadline script).find? fun piece =>
        decide (Greeting.verdict? protocol piece ≠ some .wait) := by
  fun_induction reading protocol deadline tail now script with
  | case1 now closed => rfl
  | case2 now silent => rfl
  | case3 now due delivery later late =>
    rw [Arrival.obtained_late late]
    rfl
  | case4 now due later early error => rfl
  | case5 now due later early => rfl
  | case6 now due later early piece hp hw ih =>
    obtain ⟨fitsHead, fitsLater⟩ := List.forall_mem_cons.mp fits
    rw [Arrival.obtained_piece (Nat.not_lt.mp early) hp (fitsHead _ rfl),
      List.find?_cons_of_neg (by simpa using hw), ← ih fitsLater]
    rfl
  | case7 now due later early piece hp hw =>
    obtain ⟨fitsHead, -⟩ := List.forall_mem_cons.mp fits
    rw [Arrival.obtained_piece (Nat.not_lt.mp early) hp (fitsHead _ rfl),
      List.find?_cons_of_pos (by simpa using hw)]
    rfl

end Course

namespace Session

/-- The course of a session from its start. -/
def course (session : Session) : Course :=
  Course.reading session.protocol session.deadline session.peer.tail 0 session.peer.script

/-- The one message that a piece which is no part of a longer banner gives rise to. -/
def message? (session : Session) (piece : List UInt8) : Option String :=
  match session.protocol with
  | .ssh => some (Greeting.sshAnswer session.agentName piece)
  | protocol =>
    if Greeting.verdict? protocol piece = some .accept then protocol.goodbye? else none

/-- How the log is told that the message was not sent whole. -/
def unsent (session : Session) : IoError → Notice :=
  match session.protocol with
  | .ssh => .identificationNotSent
  | _ => .goodbyeNotSent

/-- Sending the message of a piece read at time `time`, and what the log is told of it. -/
def sending (session : Session) (time : Nat) (piece : List UInt8) : Sending × List Notice :=
  Greeting.say session.peer.intake time (session.message? piece) session.unsent

/-- Whether a piece that is no part of a longer banner answers the probe: the rule of the protocol
does not refuse it, or there is no rule. -/
def admits (session : Session) (piece : List UInt8) : Bool :=
  decide (Greeting.verdict? session.protocol piece ≠ some .refuse)

/-- What follows the read of a piece that is no part of a longer banner. -/
def conclude (session : Session) (time : Nat) (piece : List UInt8) : Outcome :=
  { up := session.admits piece
    finish := (session.sending time piece).1.finish
    events := (session.sending time piece).1.events
    log := (session.sending time piece).2 ++
      if session.admits piece then [] else [.contentRefused piece] }

/-- The outcome of a session with a given course. -/
def outcome (session : Session) (course : Course) : Outcome :=
  let last : Outcome :=
    match course.ending with
    | .judged piece =>
      (session.conclude course.finish piece).after [⟨course.finish, .read piece.length⟩]
        [.greetingRead session.protocol piece]
    | .closed => fail course.finish [⟨course.finish, .read 0⟩] .closedByPeer
    | .broken error => fail course.finish [⟨course.finish, .readFailed error⟩] (.cannotRead error)
    | .expired => fail course.finish [] .deadlineExceeded
  last.after (course.waited.map fun read => ⟨read.1, .read read.2.length⟩)
    (course.waited.map fun read => .greetingRead session.protocol read.2)

/-- What was waited through first comes first in the outcome. -/
theorem outcome_after (session : Session) (course : Course) (time : Nat) (piece : List UInt8) :
    session.outcome (course.after time piece) =
      (session.outcome course).after [⟨time, .read piece.length⟩]
        [.greetingRead session.protocol piece] := rfl

/-- Every protocol but secure shell is judged in silence. -/
theorem answer?_of_ne_ssh {protocol : Protocol} (hp : protocol ≠ .ssh) (agentName : String)
    (buffer : List UInt8) : Greeting.answer? protocol agentName buffer = none := by
  cases protocol <;> first | rfl | exact absurd rfl hp

/-- The message of every protocol but secure shell is its goodbye, and only after acceptance. -/
theorem message?_of_ne_ssh {session : Session} (hp : session.protocol ≠ .ssh)
    (piece : List UInt8) :
    session.message? piece =
      if Greeting.verdict? session.protocol piece = some .accept then session.protocol.goodbye?
      else none := by
  unfold message?
  split
  · rename_i hs
    exact absurd hs hp
  · rfl

/-- After a part of a longer banner the session goes on at once, and nothing is sent or told. -/
theorem act_of_wait {session : Session} {buffer : ReadBuffer}
    (hw : Greeting.verdict? session.protocol buffer.bytes = some .wait) (time received : Nat)
    (proceed : Nat → Outcome) : session.act time buffer received proceed = proceed time := by
  have hp : session.protocol ≠ .ssh := by
    intro hs
    rw [hs] at hw
    exact Greeting.verdict?_ssh_ne_wait buffer.bytes hw
  simp only [act, Greeting.judge, hw, Option.map_some, answer?_of_ne_ssh hp]
  rfl

/-- A secure-shell piece ends the session with the answer it is judged by, and no goodbye. -/
theorem act_ssh {session : Session} (hp : session.protocol = .ssh) {buffer : ReadBuffer}
    {received : Nat} {piece : List UInt8} (hb : buffer.bytes = Greeting.buffered piece)
    (hf : buffer.front received = piece) (time : Nat) (proceed : Nat → Outcome) :
    session.act time buffer received proceed = session.conclude time piece := by
  have hv : Greeting.verdict? session.protocol buffer.bytes =
      Greeting.verdict? session.protocol piece := by
    rw [hb]
    exact Greeting.verdict?_append_zeros _ _ _
  have ha : Greeting.answer? session.protocol session.agentName buffer.bytes =
      session.message? piece := by
    simp only [Greeting.answer?, message?, hp, hb, Greeting.buffered,
      Greeting.sshAnswer_append_zeros]
  have hg : session.protocol.goodbye? = none := by rw [hp]; rfl
  have hu : session.unsent = .identificationNotSent := by simp only [unsent, hp]
  have hq : Greeting.verdict? session.protocol piece = some (Greeting.ssh piece) := by rw [hp]; rfl
  simp only [act, Greeting.judge, conclude, sending, admits, hv, ha, hu, hq, Option.map_some]
  rcases Greeting.ssh_accept_or_refuse piece with hs | hs
  · simp [hs, depart, hg, Greeting.say, Outcome.after]
  · simp [hs, fail, hf, Outcome.after]

/-- A piece of any other protocol that is no part of a longer banner ends the session with the
goodbye if it is accepted, and in silence if not. -/
theorem act_of_ne_ssh {session : Session} (hp : session.protocol ≠ .ssh) {buffer : ReadBuffer}
    {received : Nat} {piece : List UInt8} (hb : buffer.bytes = Greeting.buffered piece)
    (hf : buffer.front received = piece)
    (hj : Greeting.verdict? session.protocol piece ≠ some .wait) (time : Nat)
    (proceed : Nat → Outcome) :
    session.act time buffer received proceed = session.conclude time piece := by
  have hv : Greeting.verdict? session.protocol buffer.bytes =
      Greeting.verdict? session.protocol piece := by
    rw [hb]
    exact Greeting.verdict?_append_zeros _ _ _
  have ha := answer?_of_ne_ssh hp session.agentName buffer.bytes
  have hm := message?_of_ne_ssh hp piece
  have hu : session.unsent = .goodbyeNotSent := by
    unfold unsent
    split
    · rename_i hs
      exact absurd hs hp
    · rfl
  cases hq : Greeting.verdict? session.protocol piece with
  | none => simp [act, Greeting.judge, conclude, sending, admits, hv, hm, hq, Greeting.say]
  | some verdict =>
    simp only [act, Greeting.judge, conclude, sending, admits, hv, ha, hm, hu, hq, Option.map_some]
    cases verdict with
    | accept => simp [depart, Greeting.say, Outcome.after]
    | wait => exact absurd hq hj
    | refuse => simp [fail, hf, Greeting.say, Outcome.after]

/-- A piece that is no part of a longer banner ends the session, with what is sent on it and the
answer. -/
theorem act_of_ne_wait {session : Session} {buffer : ReadBuffer} {received : Nat}
    {piece : List UInt8} (hb : buffer.bytes = Greeting.buffered piece)
    (hf : buffer.front received = piece)
    (hj : Greeting.verdict? session.protocol piece ≠ some .wait) (time : Nat)
    (proceed : Nat → Outcome) :
    session.act time buffer received proceed = session.conclude time piece := by
  by_cases hp : session.protocol = .ssh
  · exact act_ssh hp hb hf time proceed
  · exact act_of_ne_ssh hp hb hf hj time proceed

/-- The loop follows its course: from any point in time before the deadline, and whatever an
earlier read left in the buffer, it comes to the outcome of the reading that is still to come. -/
theorem resume_eq (session : Session) {script : List Arrival}
    (fits : ∀ arrival ∈ script, arrival.Fits) {now : Nat} (intime : now ≤ session.deadline)
    (buffer : ReadBuffer) :
    session.resume now buffer script =
      session.outcome
        (Course.reading session.protocol session.deadline session.peer.tail now script) := by
  induction script generalizing now buffer with
  | nil =>
    simp only [resume, Course.reading]
    cases session.peer.tail with
    | closed => rfl
    | silent =>
      simp only [Nat.max_eq_right intime]
      rfl
  | cons arrival later ih =>
    obtain ⟨due, delivery⟩ := arrival
    obtain ⟨fitsHead, fitsLater⟩ := List.forall_mem_cons.mp fits
    simp only [resume, Course.reading, Nat.max_eq_right intime]
    by_cases late : session.deadline < due
    · rw [if_pos late, if_pos late]
      rfl
    · rw [if_neg late, if_neg late]
      have hn : max now due ≤ session.deadline := by omega
      cases delivery with
      | failure error => rfl
      | data piece =>
        cases piece with
        | nil => rfl
        | cons byte rest =>
          -- What the buffer held before the read is gone, so the induction may forget it.
          have hb := buffer.bytes_filled_cleared (fitsHead _ rfl)
          have hf := buffer.cleared.front_filled (fitsHead _ rfl)
          dsimp only
          rw [hf]
          by_cases hw : Greeting.verdict? session.protocol (byte :: rest) = some .wait
          · rw [if_pos hw, outcome_after, act_of_wait, ih fitsLater hn]
            rw [hb, Greeting.buffered, Greeting.verdict?_append_zeros, hw]
          · rw [if_neg hw, act_of_ne_wait hb hf hw]
            rfl

/-- Every run is the outcome of its course. -/
theorem run_eq (session : Session) : session.run = session.outcome session.course :=
  session.resume_eq session.peer.fits_script (Nat.zero_le _) .fresh

/-- The deciding piece: the first one obtained by the deadline that is no part of a longer
banner. -/
def decisive? (session : Session) : Option (List UInt8) :=
  (Arrival.obtained session.deadline session.peer.arrivals).find? fun piece =>
    decide (Greeting.verdict? session.protocol piece ≠ some .wait)

/-- The reading of a session ends with its deciding piece. -/
theorem judged?_course (session : Session) :
    session.course.ending.judged? = session.decisive? := by
  rw [course, Course.judged?_reading _ _ _ session.peer.fits_script, Peer.script,
    Arrival.obtained_flatMap_pieces, decisive?]

/-- A session is answered by its deciding piece alone. -/
theorem run_up_eq (session : Session) :
    session.run.up = session.decisive?.any session.admits := by
  rw [run_eq, ← judged?_course]
  unfold outcome Outcome.after
  cases session.course.ending <;> rfl

end Session

end ServiceProbe
