import ServiceProbe.Proofs.Greeting.Deadline

/-!
# A later deadline

Two sessions with the same peer that differ in their deadlines only. They are in step until the
earlier deadline fires: whatever ends the one before that ends the other in the same way, and what
the deadline cuts off is only put behind the reads that both have made. So a service that is up
stays up when it is given more time.
-/

namespace ServiceProbe

namespace Course

variable {protocol : Protocol} {deadline later : Nat}

/-- To wait for the next arrival beforehand changes nothing. -/
theorem reading_from_due (tail : Tail) (now due : Nat) (delivery : Delivery)
    (script : List Arrival) :
    reading protocol deadline tail (max now due) (⟨due, delivery⟩ :: script) =
      reading protocol deadline tail now (⟨due, delivery⟩ :: script) := by
  have waited : max (max now due) due = max now due := by omega
  cases delivery with
  | failure error => simp only [reading, waited]
  | data piece =>
    cases piece with
    | nil => simp only [reading, waited]
    | cons byte rest => simp only [reading, waited]

/-- No read comes before the time from which the reading goes on. -/
theorem le_time_reading (tail : Tail) (now : Nat) (script : List Arrival) :
    ∀ event ∈ (reading protocol deadline tail now script).reads, now ≤ event.time := by
  fun_induction reading protocol deadline tail now script with
  | case1 now closed => simp [reads]
  | case2 now silent => simp [reads]
  | case3 now due delivery script late => simp [reads]
  | case4 now due script early error =>
    exact List.forall_mem_singleton.mpr (Nat.le_max_left _ _)
  | case5 now due script early =>
    exact List.forall_mem_singleton.mpr (Nat.le_max_left _ _)
  | case6 now due script early piece hp hw ih =>
    intro event hm
    rcases List.mem_cons.mp hm with rfl | hm
    · exact Nat.le_max_left _ _
    · exact (Nat.le_max_left _ _).trans (ih event hm)
  | case7 now due script early piece hp hw =>
    exact List.forall_mem_singleton.mpr (Nat.le_max_left _ _)

/-- What was waited through comes first among the reads. -/
theorem reads_behind (course : Course) (waited : List (Nat × List UInt8)) :
    (course.behind waited).reads =
      (waited.map fun read => ⟨read.1, .read read.2.length⟩) ++ course.reads := by
  simp [reads, behind]

/-- A reading that comes to an end before its deadline comes to the same end under a later one. -/
theorem reading_of_le (order : deadline ≤ later) (tail : Tail) (now : Nat)
    {script : List Arrival}
    (h : (reading protocol deadline tail now script).ending ≠ .expired) :
    reading protocol later tail now script = reading protocol deadline tail now script := by
  fun_induction reading protocol deadline tail now script with
  | case1 now closed => simp only [reading, closed]
  | case2 now silent => exact absurd rfl h
  | case3 now due delivery script late => exact absurd rfl h
  | case4 now due script early error =>
    have intime : ¬ later < due := by omega
    simp only [reading, if_neg intime]
  | case5 now due script early =>
    have intime : ¬ later < due := by omega
    simp only [reading, if_neg intime]
  | case6 now due script early piece hp hw ih =>
    have intime : ¬ later < due := by omega
    rw [reading_piece intime hp, if_pos hw, ih h]
  | case7 now due script early piece hp hw =>
    have intime : ¬ later < due := by omega
    rw [reading_piece intime hp, if_neg hw]

/-- A reading that its deadline cuts off goes on under a later one, and only then. -/
theorem exists_reading_of_le (order : deadline ≤ later) (tail : Tail) (now : Nat)
    {script : List Arrival}
    (h : (reading protocol deadline tail now script).ending = .expired) :
    ∃ rest : Course,
      reading protocol later tail now script =
        rest.behind (reading protocol deadline tail now script).waited ∧
      ∀ event ∈ rest.reads, deadline < event.time := by
  fun_induction reading protocol deadline tail now script with
  | case1 now closed => cases h
  | case2 now silent =>
    refine ⟨⟨[], later, .expired⟩, ?_, by simp [reads]⟩
    simp only [reading, silent]
    rfl
  | case3 now due delivery script late =>
    refine ⟨reading protocol later tail now (⟨due, delivery⟩ :: script), rfl, ?_⟩
    intro event hm
    rw [← reading_from_due] at hm
    have behind := le_time_reading _ _ _ event hm
    omega
  | case4 now due script early error => cases h
  | case5 now due script early => cases h
  | case6 now due script early piece hp hw ih =>
    have intime : ¬ later < due := by omega
    obtain ⟨rest, continued, after⟩ := ih h
    refine ⟨rest, ?_, after⟩
    rw [reading_piece intime hp, if_pos hw, continued]
    rfl
  | case7 now due script early piece hp hw => cases h

end Course

namespace Session

/-- The same session under another deadline. -/
def withDeadline (session : Session) (deadline : Nat) : Session :=
  { session with deadline := deadline }

/-- A deadline bounds the reading and has no other use. -/
theorem run_withDeadline (session : Session) (deadline : Nat) :
    (session.withDeadline deadline).run =
      session.outcome
        (Course.reading session.protocol deadline session.peer.tail 0 session.peer.script) := by
  rw [run_eq]
  rfl

/-- What it means that a session loses nothing by a later deadline. -/
structure KeepsUnder (session : Session) (later : Nat) : Prop where
  /-- If anything but its deadline ends it, the later deadline changes nothing: it comes to the same
  answer at the same time, by the same dealings with the peer in the same order. -/
  same : .deadlineExceeded ∉ session.run.log → (session.withDeadline later).run = session.run
  /-- If its deadline ends it, its reads are the first ones under the later deadline, and the others
  come after the deadline that ended it. -/
  further : .deadlineExceeded ∈ session.run.log →
    ∃ others, (session.withDeadline later).run.events.filter Event.isRead =
        session.run.events.filter Event.isRead ++ others ∧
      ∀ event ∈ others, session.deadline < event.time
  /-- A service that it finds up is up under the later deadline. -/
  up : session.run.up = true → (session.withDeadline later).run.up = true

/-- Raising the deadline never breaks a session. -/
theorem keepsUnder_of_le (session : Session) {later : Nat} (order : session.deadline ≤ later) :
    session.KeepsUnder later := by
  have same : .deadlineExceeded ∉ session.run.log →
      (session.withDeadline later).run = session.run := by
    intro h
    rw [run_eq, deadlineExceeded_mem_log_outcome] at h
    rw [run_withDeadline, Course.reading_of_le order _ _ h, run_eq]
    rfl
  refine ⟨same, ?_, ?_⟩
  · intro h
    rw [run_eq, deadlineExceeded_mem_log_outcome] at h
    obtain ⟨rest, continued, after⟩ := Course.exists_reading_of_le order _ _ h
    refine ⟨rest.reads, ?_, after⟩
    have cut : session.course.reads =
        session.course.waited.map fun read => ⟨read.1, .read read.2.length⟩ := by
      rw [Course.reads, h, List.append_nil]
    have long : (session.withDeadline later).course = rest.behind session.course.waited :=
      continued
    rw [filter_isRead_run, filter_isRead_run, long, Course.reads_behind, cut]
  · intro up
    rw [same, up]
    -- A session that its deadline ends has found nothing up.
    intro h
    rw [run_eq, deadlineExceeded_mem_log_outcome] at h
    rw [run_up_eq, ← judged?_course, h] at up
    cases up

/-- A mail server that takes its time between two lines and stays silent after them. -/
def slowSession : Session :=
  { protocol := .smtp
    agentName := "probe"
    deadline := 40
    peer :=
      { arrivals :=
          [⟨10, .data (Utf8.encode "220-please wait\r\n")⟩,
            ⟨40, .data (Utf8.encode "220 ready\r\n")⟩]
        tail := .silent
        intake := { capacity := some 3, delay := 5 } } }

/-- It is up under its own deadline, which the second line just meets, and so under a later one. An
earlier deadline ends it behind the first line, and its own one lets just the second line come. -/
theorem slowSession_keepsUnder :
    slowSession.deadline ≤ 60 ∧ (slowSession.withDeadline 60).run = slowSession.run ∧
      slowSession.run.up = true ∧ (slowSession.withDeadline 39).deadline ≤ 40 ∧
      ∃ others, slowSession.run.events.filter Event.isRead = ⟨10, .read 17⟩ :: others ∧
        ∀ event ∈ others, 39 < event.time := by
  have later : slowSession.deadline ≤ 60 := by decide
  have earlier : (slowSession.withDeadline 39).deadline ≤ 40 := by decide
  have ended : .deadlineExceeded ∉ slowSession.run.log := by decide +kernel
  have cutOff : .deadlineExceeded ∈ (slowSession.withDeadline 39).run.log := by decide +kernel
  have firstRead : (slowSession.withDeadline 39).run.events.filter Event.isRead =
      [⟨10, .read 17⟩] := by decide +kernel
  obtain ⟨others, reads, after⟩ :=
    ((slowSession.withDeadline 39).keepsUnder_of_le earlier).further cutOff
  rw [firstRead] at reads
  exact ⟨later, (slowSession.keepsUnder_of_le later).same ended, by decide +kernel, earlier,
    others, reads, after⟩

end Session

end ServiceProbe
