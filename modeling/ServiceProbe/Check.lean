import ServiceProbe.Greeting.Session
import ServiceProbe.Settings

/-!
# Checks

A check dials at most once and gives an answer. What it did on the way, the endpoints it
dialled, the bytes it sent over each connection and what it told the log, is kept beside the
answer. A network that refuses, fails or stays silent makes an answer negative; it is never an
error of the check.
-/

namespace ServiceProbe

/-- An answer and what was done to get it. -/
structure Check (α : Type) where
  /-- The answer. -/
  answer : α
  /-- The endpoints dialled, in order, whether they answered or not. -/
  dials : List Endpoint := []
  /-- What was sent over each connection that was made. -/
  sent : List (List UInt8) := []
  /-- What the log is told. -/
  log : List Notice := []

namespace Check

/-- The same check with an answer computed from its answer. -/
def map {α β : Type} (f : α → β) (check : Check α) : Check β :=
  { check with answer := f check.answer }

end Check

namespace Target

/-- Dial a target. A port token that stands for no port is never dialled. -/
def connect (network : Network) (target : Target) : Check (Except DialError Peer) :=
  match target.port? with
  | none => { answer := .error (.unknownPort target.port) }
  | some port =>
    let endpoint := ⟨target.host, port⟩
    { answer := network.dial endpoint, dials := [endpoint] }

/-- The session that waits for the greeting of a peer. -/
def session (settings : Settings) (target : Target) (peer : Peer) : Session :=
  ⟨target.protocol, settings.agentName, settings.timeoutMillis, peer⟩

/-- Whether a target is up: it accepts a connection and, if its protocol greets, sends the
greeting in time. -/
def probe (settings : Settings) (network : Network) (target : Target) : Check Bool :=
  let attempt := target.connect network
  match attempt.answer with
  | .error error =>
    { attempt with answer := false, log := [.cannotConnect target error] }
  | .ok peer =>
    if target.protocol.connectOnly then { attempt with answer := true, sent := [[]] }
    else
      let outcome := (target.session settings peer).run
      { attempt with
        answer := outcome.up
        sent := [outcome.events.flatMap Event.written]
        log := outcome.log ++ if outcome.up then [] else [.noGreeting target] }

end Target

/-- Whether a port accepts connections. The port has to be a numeral; an empty address is the
loopback. -/
def portOpen (network : Network) (address port : String) : Check (Except ParamError Bool) :=
  match Port.ofNumeral? port with
  | none => { answer := .error .invalidSecond }
  | some port =>
    let endpoint := ⟨hostOf address, port⟩
    match network.dial endpoint with
    | .error error =>
      { answer := .ok false, dials := [endpoint], log := [.portClosed endpoint error] }
    | .ok _ => { answer := .ok true, dials := [endpoint], sent := [[]] }

end ServiceProbe
