import ServiceProbe.Greeting.Buffer
import ServiceProbe.Greeting.Identification
import ServiceProbe.Notice
import ServiceProbe.Peer.Sending

/-!
# Greeting sessions

On an open connection a probe reads until the greeting rule of the protocol reaches a verdict.
All reads share one deadline, so a banner of several lines has to arrive whole before it; lines
that come slowly buy no time. What a read got by the deadline counts, also at the very deadline.

A secure-shell server is answered as part of the judgement; the other protocols are left with a
goodbye after an accepted greeting. Writing never changes the verdict.
-/

namespace ServiceProbe

/-- A judgement on one buffer: the verdict and what was written on the way to it. -/
structure Judgement where
  /-- What the greeting rule says. -/
  verdict : Verdict
  /-- When the judgement was made. -/
  finish : Nat
  /-- The writes. -/
  events : List Event
  /-- What the log is told. -/
  log : List Notice
  deriving DecidableEq

namespace Greeting

/-- The verdict of a protocol on a buffer; a connection-only protocol has no greeting. -/
def verdict? (protocol : Protocol) (buffer : List UInt8) : Option Verdict :=
  match protocol with
  | .tcp | .http => none
  | .ssh => some (ssh buffer)
  | .smtp => some (smtp buffer)
  | .ftp => some (ftp buffer)
  | .pop => some (pop buffer)
  | .nntp => some (nntp buffer)
  | .imap => some (imap buffer)

/-- What a server is answered while its greeting is judged. -/
def answer? (protocol : Protocol) (agentName : String) (buffer : List UInt8) : Option String :=
  match protocol with
  | .ssh => some (sshAnswer agentName buffer)
  | _ => none

/-- The writes and notices of sending a message, if there is one, from time `now` on. -/
def say (intake : Intake) (now : Nat) (message : Option String) (unsent : IoError → Notice) :
    Sending × List Notice :=
  match message with
  | none => (⟨now, [], none⟩, [])
  | some message =>
    let sending := intake.send now 0 (Utf8.encode message)
    (sending, sending.failure.toList.map unsent)

/-- Judge the buffer at time `now`. -/
def judge (protocol : Protocol) (agentName : String) (intake : Intake) (now : Nat)
    (buffer : List UInt8) : Option Judgement :=
  (verdict? protocol buffer).map fun verdict =>
    let (sending, log) :=
      say intake now (answer? protocol agentName buffer) .identificationNotSent
    ⟨verdict, sending.finish, sending.events, log⟩

end Greeting

/-- The wait for one greeting. -/
structure Session where
  /-- The protocol that the peer is expected to speak. -/
  protocol : Protocol
  /-- The name by which secure-shell servers are answered. -/
  agentName : String
  /-- The time after which nothing is waited for. -/
  deadline : Nat
  /-- The other end. -/
  peer : Peer
  deriving DecidableEq

namespace Session

/-- What came of a session. -/
structure Outcome where
  /-- Whether the greeting was accepted. -/
  up : Bool
  /-- When the session ended. -/
  finish : Nat
  /-- The dealings with the peer, in order. -/
  events : List Event
  /-- What the log is told, in order. -/
  log : List Notice
  deriving DecidableEq

/-- An outcome with what came before it. -/
def Outcome.after (outcome : Outcome) (events : List Event) (log : List Notice) : Outcome :=
  { outcome with events := events ++ outcome.events, log := log ++ outcome.log }

/-- The end of a session that fails. -/
def fail (time : Nat) (events : List Event) (reason : Notice) : Outcome :=
  ⟨false, time, events, [reason]⟩

/-- The end of a session whose greeting was accepted at time `now`: the goodbye, which is only
logged if it cannot be sent. -/
def depart (session : Session) (now : Nat) : Outcome :=
  let (sending, log) :=
    Greeting.say session.peer.intake now session.protocol.goodbye? .goodbyeNotSent
  ⟨true, sending.finish, sending.events, log⟩

/-- Act on a buffer whose first `received` bytes were read at time `time`: the session ends with
a verdict, and `proceed` says how it goes on after a part of a longer banner. The rules are
handed the whole buffer. -/
def act (session : Session) (time : Nat) (buffer : ReadBuffer) (received : Nat)
    (proceed : Nat → Outcome) : Outcome :=
  match Greeting.judge session.protocol session.agentName session.peer.intake time
      buffer.bytes with
  | none => ⟨true, time, [], []⟩
  | some judgement =>
    let outcome :=
      match judgement.verdict with
      | .accept => session.depart judgement.finish
      | .wait => proceed judgement.finish
      | .refuse => fail judgement.finish [] (.contentRefused (buffer.front received))
    outcome.after judgement.events judgement.log

/-- Go on at time `now`, when successive reads will find `script` and then the tail of the peer.
A read waits until its delivery is there, and no longer than the deadline. The buffer comes as
the last read left it and is cleared for the next one. -/
def resume (session : Session) (now : Nat) (buffer : ReadBuffer) (script : List Arrival) :
    Outcome :=
  match script with
  | [] =>
    match session.peer.tail with
    | .closed => fail now [⟨now, .read 0⟩] .closedByPeer
    | .silent => fail (max now session.deadline) [] .deadlineExceeded
  | arrival :: later =>
    if max now session.deadline < arrival.due then
      fail (max now session.deadline) [] .deadlineExceeded
    else
      let time := max now arrival.due
      match arrival.delivery with
      | .failure error => fail time [⟨time, .readFailed error⟩] (.cannotRead error)
      | .data [] => fail time [⟨time, .read 0⟩] .closedByPeer
      | .data piece =>
        let buffer := buffer.cleared.filled piece
        let received := piece.length
        (session.act time buffer received fun now => session.resume now buffer later).after
          [⟨time, .read received⟩] [.greetingRead session.protocol (buffer.front received)]

/-- The session from its start. -/
def run (session : Session) : Outcome := session.resume 0 .fresh session.peer.script

end Session

end ServiceProbe
