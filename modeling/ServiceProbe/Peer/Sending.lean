import ServiceProbe.Peer

/-!
# Sending a message

A message is written until the peer has taken all of it. A write may take a part, and the next
one then offers the rest; a write that fails or takes nothing is the last.
-/

namespace ServiceProbe

/-- What came of sending a message. -/
structure Sending where
  /-- When it ended. -/
  finish : Nat
  /-- The writes, in order. -/
  events : List Event
  /-- Why it was not sent whole, if it was not. -/
  failure : Option IoError
  deriving DecidableEq

namespace Intake

/-- Whether writes fail once `taken` bytes were taken. -/
def isFull (intake : Intake) (taken : Nat) : Bool :=
  match intake.capacity with
  | none => false
  | some capacity => capacity ≤ taken

/-- How many of `offered` bytes a write takes once `taken` were taken. -/
def portion (intake : Intake) (taken offered : Nat) : Nat :=
  min (min offered (intake.chunk.getD offered)) ((intake.capacity.getD (taken + offered)) - taken)

/-- Send a message from time `now` on, to a peer that has taken `taken` bytes. -/
def send (intake : Intake) (now taken : Nat) (message : List UInt8) : Sending :=
  if message = [] then ⟨now, [], none⟩
  else
    let time := now + intake.delay
    let count := intake.portion taken message.length
    if intake.isFull taken then
      ⟨time, [⟨time, .writeFailed intake.error⟩], some intake.error⟩
    else if count = 0 then
      ⟨time, [⟨time, .wrote []⟩], some .writeZero⟩
    else
      let later := intake.send time (taken + count) (message.drop count)
      { later with events := ⟨time, .wrote (message.take count)⟩ :: later.events }
termination_by message.length
decreasing_by
  have : message.length ≠ 0 := by simpa using ‹¬message = []›
  simp only [List.length_drop]
  omega

end Intake

end ServiceProbe
