import ServiceProbe.Greeting.Buffer
import ServiceProbe.IoError

/-!
# Peers

The other end of a connection, as far as a probe can tell: what it sends and when, how it goes
on after that, and how it takes what is written to it. Times are milliseconds from the start of
reading and move only by waiting.
-/

namespace ServiceProbe

/-- What a read brings. -/
inductive Delivery where
  /-- Bytes; none at all is the end of the stream. -/
  | data (bytes : List UInt8)
  /-- An error. -/
  | failure (error : IoError)
  deriving DecidableEq

/-- A delivery and when it is there. -/
structure Arrival where
  /-- The time from which a read can have it. -/
  due : Nat
  /-- What the read brings. -/
  delivery : Delivery
  deriving DecidableEq

/-- How a peer goes on after its last arrival. -/
inductive Tail where
  /-- It has closed: every read finds the end of the stream. -/
  | closed
  /-- It stays silent: no read ever returns. -/
  | silent
  deriving DecidableEq

/-- How a peer takes what is written. -/
structure Intake where
  /-- The most bytes that one write takes, if there is such a bound. -/
  chunk : Option Nat := none
  /-- How many bytes are taken in all before writes fail, if they ever do. -/
  capacity : Option Nat := none
  /-- How writes fail then. -/
  error : IoError := .brokenPipe
  /-- How long each write waits first. -/
  delay : Nat := 0
  deriving DecidableEq

/-- The other end of a connection. -/
structure Peer where
  /-- What it sends, in order. -/
  arrivals : List Arrival
  /-- What comes after that. -/
  tail : Tail
  /-- How it takes what is written. -/
  intake : Intake
  deriving DecidableEq

/-- One dealing with a peer. -/
inductive Action where
  /-- A read that got so many bytes; none is the end of the stream. -/
  | read (count : Nat)
  /-- A read that failed. -/
  | readFailed (error : IoError)
  /-- A write and the bytes it took. -/
  | wrote (bytes : List UInt8)
  /-- A write that failed. -/
  | writeFailed (error : IoError)
  deriving DecidableEq

/-- A dealing with a peer and its time. -/
structure Event where
  /-- When it happened. -/
  time : Nat
  /-- What happened. -/
  action : Action
  deriving DecidableEq

/-- The bytes that an event carried to the peer. -/
def Event.written (event : Event) : List UInt8 :=
  match event.action with
  | .wrote bytes => bytes
  | _ => []

namespace Arrival

/-- Bytes cut into pieces that fit the read buffer. No bytes are one empty piece. -/
def cut (bytes : List UInt8) : List (List UInt8) :=
  if Greeting.bufferSize < bytes.length then
    bytes.take Greeting.bufferSize :: cut (bytes.drop Greeting.bufferSize)
  else [bytes]
termination_by bytes.length
decreasing_by
  have positive : 0 < Greeting.bufferSize := by decide
  simp only [List.length_drop]
  omega

/-- The deliveries of successive reads that an arrival fills. What does not fit the first read
is there for the next ones at once. -/
def pieces (arrival : Arrival) : List Arrival :=
  match arrival.delivery with
  | .data bytes => (cut bytes).map fun piece => ⟨arrival.due, .data piece⟩
  | .failure error => [⟨arrival.due, .failure error⟩]

end Arrival

/-- What successive reads find, in order. -/
def Peer.script (peer : Peer) : List Arrival := peer.arrivals.flatMap Arrival.pieces

end ServiceProbe
