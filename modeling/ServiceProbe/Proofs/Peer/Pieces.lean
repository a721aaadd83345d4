import Mathlib.Data.List.Infix
import ServiceProbe.Peer

/-!
# Pieces

Which pieces of a peer's script successive reads obtain by a deadline, and what the read behind
them finds. Every step is cut in order into pieces that fit the read buffer; an error, an empty
read or a step that is due too late ends the pieces, whatever comes after it.
-/

namespace ServiceProbe

/-- The bytes that a delivery brings. -/
def Delivery.bytes : Delivery → List UInt8
  | data bytes => bytes
  | failure _ => []

/-- Read data are what they are. -/
@[simp] theorem Delivery.bytes_data (bytes : List UInt8) : (data bytes).bytes = bytes := rfl

namespace Arrival

/-- The pieces that successive reads obtain by the deadline, in order. -/
def obtained (deadline : Nat) : List Arrival → List (List UInt8)
  | [] => []
  | ⟨_, .failure _⟩ :: _ => []
  | ⟨_, .data []⟩ :: _ => []
  | ⟨due, .data bytes⟩ :: later =>
    if due ≤ deadline then cut bytes ++ obtained deadline later else []

/-- Every piece fits the read buffer. -/
theorem length_le_of_mem_cut {bytes piece : List UInt8} (hm : piece ∈ cut bytes) :
    piece.length ≤ Greeting.bufferSize := by
  fun_induction cut bytes with
  | case1 bytes long ih =>
    rcases List.mem_cons.mp hm with rfl | hm
    · exact List.length_take_le _ _
    · exact ih hm
  | case2 bytes short =>
    rw [List.mem_singleton.mp hm]
    exact Nat.not_lt.mp short

/-- Bytes that fit the buffer are one piece. -/
theorem cut_of_length_le {bytes : List UInt8} (fits : bytes.length ≤ Greeting.bufferSize) :
    cut bytes = [bytes] := by
  rw [cut, if_neg (Nat.not_lt.mpr fits)]

/-- There is always a piece to read, if only an empty one. -/
theorem cut_ne_nil (bytes : List UInt8) : cut bytes ≠ [] := by
  rw [cut]
  split <;> exact List.cons_ne_nil _ _

/-- Only the empty step has an empty piece. -/
theorem ne_nil_of_mem_cut {bytes piece : List UInt8} (hb : bytes ≠ []) (hm : piece ∈ cut bytes) :
    piece ≠ [] := by
  fun_induction cut bytes with
  | case1 bytes long ih =>
    rcases List.mem_cons.mp hm with rfl | hm
    · intro he
      rcases List.take_eq_nil_iff.mp he with hz | hz
      · exact absurd hz (by decide)
      · exact hb hz
    · have hd : bytes.drop Greeting.bufferSize ≠ [] := by
        intro he
        have hl := List.drop_eq_nil_iff.mp he
        omega
      exact ih hd hm
  | case2 bytes short =>
    rw [List.mem_singleton.mp hm]
    exact hb

/-- The pieces of a step hold its bytes, in order and without loss. -/
theorem flatten_cut (bytes : List UInt8) : (cut bytes).flatten = bytes := by
  fun_induction cut bytes with
  | case1 bytes long ih => rw [List.flatten_cons, ih, List.take_append_drop]
  | case2 bytes short => simp

/-- A step that brings bytes is obtained whole or not at all. -/
theorem obtained_data (deadline due : Nat) {bytes : List UInt8} (hb : bytes ≠ [])
    (later : List Arrival) :
    obtained deadline (⟨due, .data bytes⟩ :: later) =
      if due ≤ deadline then cut bytes ++ obtained deadline later else [] := by
  rw [obtained]
  exact hb

/-- A piece in time is obtained, and the reading goes on behind it. -/
theorem obtained_piece {deadline due : Nat} (intime : due ≤ deadline) {piece : List UInt8}
    (hp : piece ≠ []) (fits : piece.length ≤ Greeting.bufferSize) (later : List Arrival) :
    obtained deadline (⟨due, .data piece⟩ :: later) = piece :: obtained deadline later := by
  rw [obtained_data _ _ hp, if_pos intime, cut_of_length_le fits, List.singleton_append]

/-- Nothing is obtained from a step that is due too late, nor behind it. -/
theorem obtained_late {deadline due : Nat} (late : deadline < due) (delivery : Delivery)
    (later : List Arrival) : obtained deadline (⟨due, delivery⟩ :: later) = [] := by
  cases delivery with
  | failure error => rfl
  | data bytes =>
    cases bytes with
    | nil => rfl
    | cons byte rest =>
      rw [obtained_data _ _ (List.cons_ne_nil _ _), if_neg (Nat.not_le.mpr late)]

/-- No piece that is obtained is empty. -/
theorem ne_nil_of_mem_obtained {deadline : Nat} {arrivals : List Arrival} {piece : List UInt8}
    (hm : piece ∈ obtained deadline arrivals) : piece ≠ [] := by
  fun_induction obtained deadline arrivals with
  | case1 => cases hm
  | case2 => cases hm
  | case3 => cases hm
  | case4 due bytes later hb intime ih =>
    rcases List.mem_append.mp hm with hm | hm
    · exact ne_nil_of_mem_cut hb hm
    · exact ih hm
  | case5 => cases hm

/-- All pieces of a step in time are obtained before the reading goes on. -/
theorem obtained_pieces {deadline due : Nat} (intime : due ≤ deadline)
    {pieces : List (List UInt8)} (hp : ∀ piece ∈ pieces, piece ≠ [])
    (fits : ∀ piece ∈ pieces, piece.length ≤ Greeting.bufferSize) (later : List Arrival) :
    obtained deadline (pieces.map (fun piece => ⟨due, .data piece⟩) ++ later) =
      pieces ++ obtained deadline later := by
  induction pieces with
  | nil => rfl
  | cons piece pieces ih =>
    obtain ⟨hHead, hTail⟩ := List.forall_mem_cons.mp hp
    obtain ⟨fitsHead, fitsTail⟩ := List.forall_mem_cons.mp fits
    rw [List.map_cons, List.cons_append, obtained_piece intime hHead fitsHead,
      ih hTail fitsTail, List.cons_append]

/-- Cutting the steps beforehand does not change what is obtained from them. -/
theorem obtained_flatMap_pieces (deadline : Nat) (arrivals : List Arrival) :
    obtained deadline (arrivals.flatMap pieces) = obtained deadline arrivals := by
  induction arrivals with
  | nil => rfl
  | cons arrival later ih =>
    obtain ⟨due, delivery⟩ := arrival
    rw [List.flatMap_cons]
    cases delivery with
    | failure error => rfl
    | data bytes =>
      change obtained deadline ((cut bytes).map (fun piece => ⟨due, .data piece⟩) ++
        later.flatMap pieces) = _
      by_cases hb : bytes = []
      · subst hb
        rw [cut_of_length_le (Nat.zero_le _)]
        rfl
      · rw [obtained_data _ _ hb]
        by_cases intime : due ≤ deadline
        · rw [if_pos intime, obtained_pieces intime (fun _ hm => ne_nil_of_mem_cut hb hm)
            (fun _ hm => length_le_of_mem_cut hm), ih]
        · obtain ⟨first, others, hc⟩ := List.exists_cons_of_ne_nil (cut_ne_nil bytes)
          rw [if_neg intime, hc, List.map_cons, List.cons_append,
            obtained_late (Nat.not_le.mp intime)]

/-- Put together, the pieces that are obtained are a front of all that is sent. -/
theorem flatten_obtained_prefix (deadline : Nat) (arrivals : List Arrival) :
    (obtained deadline arrivals).flatten <+:
      arrivals.flatMap fun arrival => arrival.delivery.bytes := by
  fun_induction obtained deadline arrivals with
  | case1 => exact List.nil_prefix
  | case2 => exact List.nil_prefix
  | case3 => exact List.nil_prefix
  | case4 due bytes later hb intime ih =>
    rw [List.flatten_append, flatten_cut, List.flatMap_cons]
    exact (List.prefix_append_right_inj _).mpr ih
  | case5 => exact List.nil_prefix

/-- Whether an arrival brings bytes by the deadline. -/
def brings (deadline : Nat) (arrival : Arrival) : Bool :=
  match arrival.delivery with
  | .data (_ :: _) => decide (arrival.due ≤ deadline)
  | _ => false

/-- What is left of some arrivals behind all the pieces obtained by the deadline. -/
def left (deadline : Nat) (arrivals : List Arrival) : List Arrival :=
  arrivals.dropWhile (brings deadline)

/-- Whether the next read finds nothing by the deadline: what it waits for is due later, or there is
nothing more and the peer stays silent. -/
def starves (deadline : Nat) (tail : Tail) : List Arrival → Prop
  | [] => tail = .silent
  | next :: _ => deadline < next.due

/-- Bytes in time are obtained and left behind. -/
theorem left_data {deadline due : Nat} (intime : due ≤ deadline) {bytes : List UInt8}
    (hb : bytes ≠ []) (later : List Arrival) :
    left deadline (⟨due, .data bytes⟩ :: later) = left deadline later := by
  obtain ⟨byte, rest, rfl⟩ := List.exists_cons_of_ne_nil hb
  exact List.dropWhile_cons_of_pos (decide_eq_true intime)

/-- What is due too late is left, whatever it brings. -/
theorem left_late {deadline due : Nat} (late : deadline < due) (delivery : Delivery)
    (later : List Arrival) :
    left deadline (⟨due, delivery⟩ :: later) = ⟨due, delivery⟩ :: later := by
  apply List.dropWhile_cons_of_neg
  cases delivery with
  | failure error => exact Bool.false_ne_true
  | data bytes =>
    cases bytes with
    | nil => exact Bool.false_ne_true
    | cons byte rest => simpa [brings] using late

/-- All pieces of a step in time are left behind. -/
theorem left_pieces {deadline due : Nat} (intime : due ≤ deadline) {pieces : List (List UInt8)}
    (hp : ∀ piece ∈ pieces, piece ≠ []) (later : List Arrival) :
    left deadline (pieces.map (fun piece => ⟨due, .data piece⟩) ++ later) =
      left deadline later := by
  induction pieces with
  | nil => rfl
  | cons piece pieces ih =>
    obtain ⟨hHead, hTail⟩ := List.forall_mem_cons.mp hp
    rw [List.map_cons, List.cons_append, left_data intime hHead, ih hTail]

/-- Cutting the steps beforehand does not change when the next read finds something. -/
theorem starves_left_flatMap_pieces (deadline : Nat) (tail : Tail) (arrivals : List Arrival) :
    starves deadline tail (left deadline (arrivals.flatMap pieces)) ↔
      starves deadline tail (left deadline arrivals) := by
  induction arrivals with
  | nil => rfl
  | cons arrival later ih =>
    obtain ⟨due, delivery⟩ := arrival
    rw [List.flatMap_cons]
    cases delivery with
    | failure error => rfl
    | data bytes =>
      change starves deadline tail (left deadline ((cut bytes).map
        (fun piece => ⟨due, .data piece⟩) ++ later.flatMap pieces)) ↔ _
      by_cases hb : bytes = []
      · subst hb
        rw [cut_of_length_le (Nat.zero_le _)]
        rfl
      · by_cases intime : due ≤ deadline
        · rw [left_pieces intime (fun _ hm => ne_nil_of_mem_cut hb hm), left_data intime hb, ih]
        · obtain ⟨first, others, hc⟩ := List.exists_cons_of_ne_nil (cut_ne_nil bytes)
          rw [hc, List.map_cons, List.cons_append, left_late (Nat.not_le.mp intime),
            left_late (Nat.not_le.mp intime)]
          rfl

/-- How many pieces an arrival is: one for each part of the size of the read buffer, and at least
one. -/
def pieceCount (arrival : Arrival) : Nat :=
  match arrival.delivery with
  | .data bytes => max 1 ((bytes.length + (Greeting.bufferSize - 1)) / Greeting.bufferSize)
  | .failure _ => 1

/-- Bytes are cut into as many pieces as there are sizes of the buffer in them, rounded up. -/
theorem length_cut (bytes : List UInt8) :
    (cut bytes).length =
      max 1 ((bytes.length + (Greeting.bufferSize - 1)) / Greeting.bufferSize) := by
  fun_induction cut bytes with
  | case1 bytes long ih =>
    rw [List.length_cons, ih, List.length_drop]
    simp only [Greeting.bufferSize] at long ⊢
    omega
  | case2 bytes short =>
    simp only [Greeting.bufferSize, List.length_singleton] at short ⊢
    omega

/-- How many pieces some arrivals are together. -/
def pieceTotal (arrivals : List Arrival) : Nat :=
  arrivals.foldr (fun arrival total => arrival.pieceCount + total) 0

/-- No more pieces are obtained than there are. -/
theorem length_obtained_le (deadline : Nat) (arrivals : List Arrival) :
    (obtained deadline arrivals).length ≤ pieceTotal arrivals := by
  fun_induction obtained deadline arrivals with
  | case1 => exact Nat.zero_le _
  | case2 => exact Nat.zero_le _
  | case3 => exact Nat.zero_le _
  | case4 due bytes later hb intime ih =>
    rw [List.length_append, length_cut]
    exact Nat.add_le_add_left ih _
  | case5 => exact Nat.zero_le _

/-- Whether what an arrival brings fits the read buffer. -/
def Fits (arrival : Arrival) : Prop :=
  ∀ piece, arrival.delivery = .data piece → piece.length ≤ Greeting.bufferSize

end Arrival

/-- No read of a script brings more than the buffer holds. -/
theorem Peer.fits_script (peer : Peer) : ∀ arrival ∈ peer.script, arrival.Fits := by
  intro arrival hm piece hd
  obtain ⟨step, -, hs⟩ := List.mem_flatMap.mp hm
  unfold Arrival.pieces at hs
  split at hs
  · obtain ⟨cutPiece, hc, rfl⟩ := List.mem_map.mp hs
    cases hd
    exact Arrival.length_le_of_mem_cut hc
  · rw [List.mem_singleton.mp hs] at hd
    cases hd

end ServiceProbe
