/-!
# The read buffer

All reads of one session land in the same buffer of fixed size. It is cleared before every read
and then filled from the front, so that behind the bytes received stand zeros, and nothing that
an earlier and longer read left.
-/

namespace ServiceProbe

namespace Greeting

/-- The size of the buffer that a read fills. -/
def bufferSize : Nat := 2048

/-- Received bytes with zeros behind them, up to the size of the buffer. -/
def buffered (piece : List UInt8) : List UInt8 :=
  piece ++ List.replicate (bufferSize - piece.length) 0

end Greeting

/-- The buffer that the reads of a session share. -/
structure ReadBuffer where
  /-- What stands in the buffer, from its front. -/
  bytes : List UInt8
  /-- The size is fixed. -/
  length_bytes : bytes.length = Greeting.bufferSize

namespace ReadBuffer

/-- The buffer before the first read. -/
def fresh : ReadBuffer := ⟨List.replicate Greeting.bufferSize 0, List.length_replicate⟩

/-- The buffer with zeros in every place. -/
def cleared (buffer : ReadBuffer) : ReadBuffer :=
  ⟨buffer.bytes.map fun _ => 0, by rw [List.length_map, buffer.length_bytes]⟩

/-- The buffer after a read: its front holds what was received, and the rest stays as it was. -/
def filled (buffer : ReadBuffer) (piece : List UInt8) : ReadBuffer :=
  ⟨(piece ++ buffer.bytes.drop piece.length).take Greeting.bufferSize, by
    have size := buffer.length_bytes
    simp only [List.length_take, List.length_append, List.length_drop]
    omega⟩

/-- The bytes in the first `count` places. -/
def front (buffer : ReadBuffer) (count : Nat) : List UInt8 := buffer.bytes.take count

/-- A cleared buffer is the fresh one, whatever stood in it. -/
@[simp] theorem bytes_cleared (buffer : ReadBuffer) :
    buffer.cleared.bytes = List.replicate Greeting.bufferSize 0 := by
  simp only [cleared, List.map_const', buffer.length_bytes]

/-- Clearing before a read leaves nothing but the received bytes and zeros. -/
theorem bytes_filled_cleared (buffer : ReadBuffer) {piece : List UInt8}
    (fits : piece.length ≤ Greeting.bufferSize) :
    (buffer.cleared.filled piece).bytes = Greeting.buffered piece := by
  simp only [filled, bytes_cleared, Greeting.buffered, List.drop_replicate]
  apply List.take_of_length_le
  simp only [List.length_append, List.length_replicate]
  omega

/-- The front of the buffer holds what was received last. -/
theorem front_filled (buffer : ReadBuffer) {piece : List UInt8}
    (fits : piece.length ≤ Greeting.bufferSize) :
    (buffer.filled piece).front piece.length = piece := by
  simp only [front, filled, List.take_take, Nat.min_eq_left fits, List.take_left']

end ReadBuffer

end ServiceProbe
