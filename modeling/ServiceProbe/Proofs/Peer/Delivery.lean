import ServiceProbe.Peer.Sending

/-!
# Delivery

What of a message reaches a peer that takes it in parts. However the writes are cut, the parts
stand one behind the other and make up the front of the message, up to what the peer has room
for.
-/

namespace ServiceProbe

/-- Whether an event is a read, successful or not. -/
def Event.isRead (event : Event) : Bool :=
  match event.action with
  | .read _ | .readFailed _ => true
  | .wrote _ | .writeFailed _ => false

/-- Why a message is given up with an event, if it is: a write failed, or it took nothing. -/
def Event.gaveUp? (event : Event) : Option IoError :=
  match event.action with
  | .writeFailed error => some error
  | .wrote [] => some .writeZero
  | _ => none

/-- No message is given up with a write that takes something. -/
theorem Event.gaveUp?_of_written {event : Event} (h : event.written ≠ []) :
    event.gaveUp? = none := by
  obtain ⟨time, action⟩ := event
  cases action with
  | wrote bytes =>
    obtain ⟨byte, rest, rfl⟩ := List.exists_cons_of_ne_nil h
    rfl
  | _ => exact absurd rfl h

namespace Intake

/-- For how many of `offered` bytes there is room behind `taken` ones. -/
def room (intake : Intake) (taken offered : Nat) : Nat :=
  min offered (intake.capacity.getD (taken + offered) - taken)

/-- How many of `offered` bytes are taken in the end by a peer that has taken `taken` bytes: as many
as there is room for, unless a write takes none at all. -/
def allowance (intake : Intake) (taken offered : Nat) : Nat :=
  if intake.chunk = some 0 then 0 else intake.room taken offered

/-- What it means that a peer takes everything: a part of it, at least, with every write, and
without end. -/
def TakesAll (intake : Intake) : Prop := intake.chunk ≠ some 0 ∧ intake.capacity = none

/-- A full peer has no room. -/
theorem room_eq_zero_of_isFull {intake : Intake} {taken : Nat} (h : intake.isFull taken = true)
    (offered : Nat) : intake.room taken offered = 0 := by
  unfold room
  unfold isFull at h
  cases hc : intake.capacity with
  | none =>
    rw [hc] at h
    cases h
  | some capacity =>
    rw [hc] at h
    have hl : capacity ≤ taken := of_decide_eq_true h
    simp only [Option.getD_some]
    omega

/-- A peer that is not full has room. -/
theorem room_pos {intake : Intake} {taken offered : Nat} (h : intake.isFull taken = false)
    (positive : 0 < offered) : 0 < intake.room taken offered := by
  unfold room
  unfold isFull at h
  cases hc : intake.capacity with
  | none =>
    simp only [Option.getD_none]
    omega
  | some capacity =>
    rw [hc] at h
    have hl : ¬ capacity ≤ taken := of_decide_eq_false h
    simp only [Option.getD_some]
    omega

/-- What a write takes uses up the room. -/
theorem room_eq_add {intake : Intake} {taken offered count : Nat}
    (h : count ≤ intake.room taken offered) :
    intake.room taken offered = count + intake.room (taken + count) (offered - count) := by
  unfold room at h ⊢
  cases hc : intake.capacity with
  | none =>
    rw [hc] at h
    simp only [Option.getD_none] at h ⊢
    omega
  | some capacity =>
    rw [hc] at h
    simp only [Option.getD_some] at h ⊢
    omega

/-- A write takes what there is room for, up to the size of its part. -/
theorem portion_eq (intake : Intake) (taken offered : Nat) :
    intake.portion taken offered =
      min (intake.chunk.getD offered) (intake.room taken offered) := by
  unfold portion room
  omega

/-- A write to a peer with room takes nothing if and only if no write takes anything. -/
theorem portion_eq_zero_iff {intake : Intake} {taken offered : Nat}
    (h : intake.isFull taken = false) (positive : 0 < offered) :
    intake.portion taken offered = 0 ↔ intake.chunk = some 0 := by
  have hr := room_pos h positive
  rw [portion_eq]
  cases hc : intake.chunk with
  | none =>
    simp only [Option.getD_none, reduceCtorEq, iff_false]
    omega
  | some size =>
    simp only [Option.getD_some, Option.some.injEq]
    omega

/-- The events of sending are writes. -/
theorem isRead_send (intake : Intake) (now taken : Nat) (message : List UInt8) :
    ∀ event ∈ (intake.send now taken message).events, event.isRead = false := by
  fun_induction intake.send now taken message with
  | case1 => simp
  | case2 => simp [Event.isRead]
  | case3 => simp [Event.isRead]
  | case4 now taken message hm time count full positive later ih =>
    rw [List.forall_mem_cons]
    exact ⟨rfl, ih⟩

/-- The peer takes the front of a message, as long as its allowance. -/
theorem written_send (intake : Intake) (now taken : Nat) (message : List UInt8) :
    (intake.send now taken message).events.flatMap Event.written =
      message.take (intake.allowance taken message.length) := by
  fun_induction intake.send now taken message with
  | case1 => simp
  | case2 now taken message hm time full =>
    have hr := room_eq_zero_of_isFull full message.length
    simp [allowance, hr, Event.written]
  | case3 now taken message hm time count full nothing =>
    have positive : 0 < message.length := List.length_pos_iff.mpr hm
    have hc := (portion_eq_zero_iff (by simpa using full) positive).mp nothing
    simp [allowance, hc, Event.written]
  | case4 now taken message hm time count full something later ih =>
    have positive : 0 < message.length := List.length_pos_iff.mpr hm
    have hc : intake.chunk ≠ some 0 :=
      mt (portion_eq_zero_iff (by simpa using full) positive).mpr something
    have hle : count ≤ intake.room taken message.length := by
      rw [show count = _ from portion_eq intake taken message.length]
      exact Nat.min_le_right _ _
    rw [List.flatMap_cons, ih, allowance, allowance, if_neg hc, if_neg hc, List.length_drop,
      room_eq_add hle, List.take_add]
    rfl

/-- A peer that takes everything has the whole message in the end. -/
theorem written_send_of_takesAll {intake : Intake} (h : intake.TakesAll) (now : Nat)
    (message : List UInt8) :
    (intake.send now 0 message).events.flatMap Event.written = message := by
  rw [written_send, allowance, if_neg h.1, room, h.2, Option.getD_none, Nat.zero_add,
    Nat.sub_zero, Nat.min_self, List.take_length]

/-- Sending takes as long as its writes wait, and each of them is told. -/
theorem finish_send (intake : Intake) (now taken : Nat) (message : List UInt8) :
    (intake.send now taken message).finish =
      now + intake.delay * (intake.send now taken message).events.length := by
  fun_induction intake.send now taken message with
  | case1 => simp
  | case2 now taken message hm time full => rw [List.length_singleton, Nat.mul_one]
  | case3 now taken message hm time count full nothing =>
    rw [List.length_singleton, Nat.mul_one]
  | case4 now taken message hm time count full something later ih =>
    calc later.finish
      _ = now + intake.delay + intake.delay * later.events.length := ih
      _ = now + intake.delay * (later.events.length + 1) := by rw [Nat.mul_succ]; omega

/-- Sending is a row of writes that take something each, and behind them the one write with which the
message is given up, if it is. As that one leaves something of the message, there are no more writes
than the message has bytes. -/
theorem exists_events_send (intake : Intake) (now taken : Nat) (message : List UInt8) :
    ∃ taking last, (intake.send now taken message).events = taking ++ last ∧
      (∀ event ∈ taking, event.written ≠ []) ∧
      last.map Event.gaveUp? = (intake.send now taken message).failure.toList.map some ∧
      taking.length + last.length ≤ message.length := by
  fun_induction intake.send now taken message with
  | case1 => exact ⟨[], [], rfl, by simp, rfl, Nat.zero_le _⟩
  | case2 now taken message hm time full =>
    exact ⟨[], [_], rfl, by simp, rfl, List.length_pos_iff.mpr hm⟩
  | case3 now taken message hm time count full nothing =>
    exact ⟨[], [_], rfl, by simp, rfl, List.length_pos_iff.mpr hm⟩
  | case4 now taken message hm time count full something later ih =>
    obtain ⟨taking, last, events, some, gaveUp, bound⟩ := ih
    have positive : 0 < message.length := List.length_pos_iff.mpr hm
    refine ⟨⟨time, .wrote (message.take count)⟩ :: taking, last, ?_, ?_, gaveUp, ?_⟩
    · rw [List.cons_append, ← events]
    · rw [List.forall_mem_cons]
      refine ⟨?_, some⟩
      rw [Event.written, ne_eq, List.take_eq_nil_iff, not_or]
      exact ⟨something, hm⟩
    · rw [List.length_drop] at bound
      rw [List.length_cons]
      omega

/-- Why a message was given up is told by the events. -/
theorem filterMap_gaveUp?_send (intake : Intake) (now taken : Nat) (message : List UInt8) :
    (intake.send now taken message).events.filterMap Event.gaveUp? =
      (intake.send now taken message).failure.toList := by
  obtain ⟨taking, last, events, some, gaveUp, -⟩ := exists_events_send intake now taken message
  have none : taking.filterMap Event.gaveUp? = [] :=
    List.filterMap_eq_nil_iff.mpr fun event hm => Event.gaveUp?_of_written (some event hm)
  calc (intake.send now taken message).events.filterMap Event.gaveUp?
    _ = last.filterMap Event.gaveUp? := by rw [events, List.filterMap_append, none, List.nil_append]
    _ = (last.map Event.gaveUp?).filterMap id := by rw [List.filterMap_map, Function.id_comp]
    _ = ((intake.send now taken message).failure.toList.map Option.some).filterMap id := by
      rw [gaveUp]
    _ = (intake.send now taken message).failure.toList := by
      rw [List.filterMap_map, Function.id_comp, List.filterMap_some]

/-- A message is not given up if and only if the peer takes all of it. -/
theorem failure_send_eq_none_iff (intake : Intake) (now taken : Nat) (message : List UInt8) :
    (intake.send now taken message).failure = none ↔
      (intake.send now taken message).events.flatMap Event.written = message := by
  fun_induction intake.send now taken message with
  | case1 message empty => simp
  | case2 now taken message hm time full => simp [Event.written, Ne.symm hm]
  | case3 now taken message hm time count full nothing => simp [Event.written, Ne.symm hm]
  | case4 now taken message hm time count full something later ih =>
    rw [List.flatMap_cons]
    constructor
    · intro sent
      rw [ih.mp sent]
      exact List.take_append_drop count message
    · intro whole
      have split : message.take count ++ message.drop count = message :=
        List.take_append_drop count message
      exact ih.mpr (List.append_cancel_left (whole.trans split.symm))

end Intake

end ServiceProbe
