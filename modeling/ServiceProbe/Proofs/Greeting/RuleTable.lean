import ServiceProbe.Proofs.Greeting.Acceptance
import ServiceProbe.Proofs.Greeting.Dialogue
import ServiceProbe.Proofs.Greeting.Rules

/-!
# The table of greeting rules

Which bytes of one read are a greeting, which are a part of a longer banner, and that all others are
refused, told protocol by protocol through their beginnings. A session classifies every piece that a
read gets by this table, although its rules see the whole buffer and never how much of it was
received. The one trace of that is in mail transfer, where a zero behind the code counts as no byte
at all, whether it was received or not.
-/

namespace ServiceProbe

namespace Greeting

/-- A row of the table. What is in neither class is refused. -/
structure Row where
  /-- The pieces that are a greeting. -/
  accepts : List UInt8 → Prop
  /-- The pieces that are a part of a longer banner. -/
  waits : List UInt8 → Prop

/-- The row of a protocol; one that only asks for a connection has no greeting. -/
def row : Protocol → Row
  | .tcp | .http => ⟨fun _ => False, fun _ => False⟩
  | .ssh =>
    { accepts := fun piece => ∃ (version : SshVersion) (major minor rest : List UInt8),
        piece = Utf8.encode "SSH-" ++ (major ++ (Utf8.encode "." ++ (minor ++ rest))) ∧
          SshVersion.Spells major version.major ∧ SshVersion.Spells minor version.minor ∧
          ∀ byte ∈ rest.head?, ¬ SshVersion.isDigit byte
      waits := fun _ => False }
  | .smtp =>
    { accepts := fun piece => piece = Utf8.encode "220" ∨ Utf8.encode "220 " <+: piece ∨
        Utf8.encode "220\x00" <+: piece
      waits := fun piece => Utf8.encode "220-" <+: piece }
  | .ftp =>
    { accepts := fun piece => Utf8.encode "220 " <+: piece
      waits := fun piece => ¬ Utf8.encode "220 " <+: piece }
  | .pop => ⟨fun piece => Utf8.encode "+OK" <+: piece, fun _ => False⟩
  | .nntp =>
    { accepts := fun piece => Utf8.encode "200" <+: piece ∨ Utf8.encode "201" <+: piece
      waits := fun _ => False }
  | .imap => ⟨fun piece => Utf8.encode "* OK" <+: piece, fun _ => False⟩

/-- A byte follows a text if and only if the text and the byte are a prefix. -/
theorem append_singleton_prefix_iff {opening : String} {byte : UInt8} {bytes : List UInt8} :
    Utf8.encode opening ++ [byte] <+: bytes ↔
      ∃ rest, after? opening bytes = some (byte :: rest) := by
  simp only [after?_eq_some_iff]
  constructor
  · rintro ⟨rest, rfl⟩
    exact ⟨rest, by rw [List.append_assoc, List.singleton_append]⟩
  · rintro ⟨rest, rfl⟩
    exact ⟨rest, by rw [List.append_assoc, List.singleton_append]⟩

/-- Mail transfer accepts the code alone, before a space and before a zero. -/
theorem smtp_eq_accept_iff {bytes : List UInt8} :
    smtp bytes = .accept ↔ (row .smtp).accepts bytes := by
  have alone : bytes = Utf8.encode "220" ↔ after? "220" bytes = some [] := by
    rw [after?_eq_some_iff, List.append_nil]
  have space : Utf8.encode "220 " = Utf8.encode "220" ++ [' '.toUInt8] := by decide
  have zero : Utf8.encode "220\x00" = Utf8.encode "220" ++ [0] := by decide
  simp only [row, alone, space, zero, append_singleton_prefix_iff, smtp]
  cases after? "220" bytes with
  | none => simp
  | some rest =>
    cases rest with
    | nil => simp
    | cons next rest =>
      by_cases hyphen : next = '-'.toUInt8
      · have other : '-'.toUInt8 ≠ ' '.toUInt8 ∧ '-'.toUInt8 ≠ 0 := by decide
        simp [hyphen, other]
      · by_cases nul : next = 0
        · rw [nul] at hyphen
          simp [nul, hyphen]
        · simp [hyphen, nul]

/-- Mail transfer waits through the code before a hyphen. -/
theorem smtp_eq_wait_iff {bytes : List UInt8} :
    smtp bytes = .wait ↔ (row .smtp).waits bytes := by
  have hyphen : Utf8.encode "220-" = Utf8.encode "220" ++ ['-'.toUInt8] := by decide
  simp only [row, hyphen, append_singleton_prefix_iff, smtp]
  cases after? "220" bytes with
  | none => simp
  | some rest =>
    cases rest with
    | nil => simp
    | cons next rest =>
      by_cases hyphen : next = '-'.toUInt8
      · simp [hyphen]
      · by_cases ready : next = 0 ∨ next = ' '.toUInt8
        · simp [hyphen, ready]
        · simp [hyphen, ready]

/-- Secure shell accepts what opens with a version. -/
theorem ssh_eq_accept_iff {bytes : List UInt8} :
    ssh bytes = .accept ↔ (row .ssh).accepts bytes := by
  rw [ssh, ite_eq_accept_iff (by simp), Option.isSome_iff_exists]
  simp only [row, SshVersion.ofBanner?_eq_some_iff]

/-- A rule that asks for one thing only waits if and only if that is its way to go without it. -/
theorem ite_eq_wait_iff {found : Bool} {other : Verdict} :
    (if found then Verdict.accept else other) = .wait ↔ found = false ∧ other = .wait := by
  cases found <;> simp

/-- A protocol accepts the pieces of its row. -/
theorem verdict?_eq_accept_iff {protocol : Protocol} {bytes : List UInt8} :
    verdict? protocol bytes = some .accept ↔ (row protocol).accepts bytes := by
  cases protocol with
  | tcp => simp [verdict?, row]
  | http => simp [verdict?, row]
  | ssh => rw [verdict?, Option.some_inj, ssh_eq_accept_iff]
  | smtp => rw [verdict?, Option.some_inj, smtp_eq_accept_iff]
  | ftp => rw [verdict?, Option.some_inj, ftp_eq_accept_iff, row]
  | pop => rw [verdict?, Option.some_inj, pop_eq_accept_iff, row]
  | nntp => rw [verdict?, Option.some_inj, nntp_eq_accept_iff, row]
  | imap => rw [verdict?, Option.some_inj, imap_eq_accept_iff, row]

/-- A protocol waits through the pieces of its row. -/
theorem verdict?_eq_wait_iff {protocol : Protocol} {bytes : List UInt8} :
    verdict? protocol bytes = some .wait ↔ (row protocol).waits bytes := by
  cases protocol with
  | tcp => simp [verdict?, row]
  | http => simp [verdict?, row]
  | ssh => simp [verdict?_ssh_ne_wait, row]
  | smtp => rw [verdict?, Option.some_inj, smtp_eq_wait_iff]
  | ftp => simp [verdict?, ftp, row, ← opens_iff]
  | pop => simp [verdict?, pop, ite_eq_wait_iff, row]
  | nntp =>
    rw [verdict?, Option.some_inj, nntp, ite_eq_wait_iff]
    simp [row]
  | imap => simp [verdict?, imap, ite_eq_wait_iff, row]

/-- A protocol that greets refuses what is in neither class of its row. -/
theorem verdict?_eq_refuse_iff {protocol : Protocol} (greets : protocol.connectOnly = false)
    {bytes : List UInt8} :
    verdict? protocol bytes = some .refuse ↔
      ¬ (row protocol).accepts bytes ∧ ¬ (row protocol).waits bytes := by
  obtain ⟨verdict, h⟩ := exists_verdict greets bytes
  rw [← verdict?_eq_accept_iff, ← verdict?_eq_wait_iff, h]
  cases verdict <;> simp

end Greeting

namespace Session

/-- What the rules say of a piece, in the buffer that it was read into at time `time`. -/
def classification (session : Session) (time : Nat) (buffer : ReadBuffer)
    (piece : List UInt8) : Option Verdict :=
  (Greeting.judge session.protocol session.agentName session.peer.intake time
    (buffer.cleared.filled piece).bytes).map Judgement.verdict

/-- The buffer has no say in the classification. -/
theorem classification_eq (session : Session) (time : Nat) (buffer : ReadBuffer)
    {piece : List UInt8} (fits : piece.length ≤ Greeting.bufferSize) :
    session.classification time buffer piece = Greeting.verdict? session.protocol piece := by
  rw [classification, map_verdict_judge, buffer.bytes_filled_cleared fits, Greeting.buffered,
    Greeting.verdict?_append_zeros]

/-- A piece in time is read, and the session acts on the buffer that holds it. -/
theorem resume_piece (session : Session) {now due : Nat}
    (intime : due ≤ max now session.deadline) {piece : List UInt8} (hp : piece ≠ [])
    (fits : piece.length ≤ Greeting.bufferSize) (buffer : ReadBuffer) (script : List Arrival) :
    session.resume now buffer (⟨due, .data piece⟩ :: script) =
      (session.act (max now due) (buffer.cleared.filled piece) piece.length fun now =>
          session.resume now (buffer.cleared.filled piece) script).after
        [⟨max now due, .read piece.length⟩] [.greetingRead session.protocol piece] := by
  obtain ⟨byte, rest, rfl⟩ := List.exists_cons_of_ne_nil hp
  simp only [resume, if_neg (Nat.not_lt.mpr intime), buffer.cleared.front_filled fits]

/-- A piece that is no part of a longer banner is the last one read, and its verdict is the answer. -/
theorem resume_of_ne_wait (session : Session) {now due : Nat}
    (intime : due ≤ max now session.deadline) {piece : List UInt8} (hp : piece ≠ [])
    (fits : piece.length ≤ Greeting.bufferSize)
    (hj : Greeting.verdict? session.protocol piece ≠ some .wait) (buffer : ReadBuffer)
    (script : List Arrival) :
    (session.resume now buffer (⟨due, .data piece⟩ :: script)).up = session.admits piece ∧
      (session.resume now buffer (⟨due, .data piece⟩ :: script)).events.filter Event.isRead =
        [⟨max now due, .read piece.length⟩] := by
  have bytes := buffer.bytes_filled_cleared fits
  have front := buffer.cleared.front_filled fits
  have silent : (session.sending (max now due) piece).1.events.filter Event.isRead = [] := by
    rw [List.filter_eq_nil_iff]
    intro event hm
    simp [session.isRead_sending _ _ event hm]
  rw [session.resume_piece intime hp fits, act_of_ne_wait bytes front hj]
  refine ⟨rfl, ?_⟩
  change List.filter Event.isRead (⟨max now due, .read piece.length⟩ ::
    (session.sending (max now due) piece).1.events) = _
  rw [List.filter_cons_of_pos rfl, silent]

/-- What it means that a session goes by the table on a piece that a read got: from any point in time,
whatever an earlier read left in the buffer, and whatever comes after the piece. -/
structure Classifies (session : Session) (now due : Nat) (buffer : ReadBuffer)
    (piece : List UInt8) (script : List Arrival) : Prop where
  /-- The rules accept the pieces that the table accepts, -/
  accepts : session.classification (max now due) buffer piece = some .accept ↔
    (Greeting.row session.protocol).accepts piece
  /-- wait on those that it waits on, -/
  waits : session.classification (max now due) buffer piece = some .wait ↔
    (Greeting.row session.protocol).waits piece
  /-- and refuse all others. -/
  refuses : session.classification (max now due) buffer piece = some .refuse ↔
    ¬ (Greeting.row session.protocol).accepts piece ∧
      ¬ (Greeting.row session.protocol).waits piece
  /-- An accepted piece is the last one read, and the service is up. -/
  up : (Greeting.row session.protocol).accepts piece →
    (session.resume now buffer (⟨due, .data piece⟩ :: script)).up = true ∧
      (session.resume now buffer (⟨due, .data piece⟩ :: script)).events.filter Event.isRead =
        [⟨max now due, .read piece.length⟩]
  /-- Behind a part of a longer banner the session goes on with what comes next. -/
  continued : (Greeting.row session.protocol).waits piece →
    session.resume now buffer (⟨due, .data piece⟩ :: script) =
      (session.resume (max now due) (buffer.cleared.filled piece) script).after
        [⟨max now due, .read piece.length⟩] [.greetingRead session.protocol piece]
  /-- A refused piece is the last one read, and the service is down. -/
  down : ¬ (Greeting.row session.protocol).accepts piece →
    ¬ (Greeting.row session.protocol).waits piece →
    (session.resume now buffer (⟨due, .data piece⟩ :: script)).up = false ∧
      (session.resume now buffer (⟨due, .data piece⟩ :: script)).events.filter Event.isRead =
        [⟨max now due, .read piece.length⟩]

/-- Every protocol that greets goes by the table on every piece that a read gets. -/
theorem classifies (session : Session) (greets : session.protocol.connectOnly = false)
    {now due : Nat} (intime : due ≤ max now session.deadline) {piece : List UInt8}
    (hp : piece ≠ []) (fits : piece.length ≤ Greeting.bufferSize) (buffer : ReadBuffer)
    (script : List Arrival) : session.Classifies now due buffer piece script where
  accepts := by rw [classification_eq _ _ _ fits, Greeting.verdict?_eq_accept_iff]
  waits := by rw [classification_eq _ _ _ fits, Greeting.verdict?_eq_wait_iff]
  refuses := by rw [classification_eq _ _ _ fits, Greeting.verdict?_eq_refuse_iff greets]
  up := by
    intro h
    have accepted := Greeting.verdict?_eq_accept_iff.mpr h
    have last := session.resume_of_ne_wait intime hp fits (by simp [accepted]) buffer script
    rwa [admits, accepted] at last
  continued := by
    intro h
    have waited := Greeting.verdict?_eq_wait_iff.mpr h
    have classed := session.classification_eq (max now due) buffer fits
    rw [classification, map_verdict_judge, waited] at classed
    rw [session.resume_piece intime hp fits, act_of_wait classed]
  down := by
    intro notAccepted notWaited
    have refused := (Greeting.verdict?_eq_refuse_iff greets).mpr ⟨notAccepted, notWaited⟩
    have last := session.resume_of_ne_wait intime hp fits (by simp [refused]) buffer script
    rwa [admits, refused] at last

/-- A mail server that sends no more than the code. -/
def bareSession : Session :=
  { protocol := .smtp
    agentName := "probe"
    deadline := 100
    peer := { arrivals := [⟨50, .data (Utf8.encode "220")⟩], tail := .silent, intake := {} } }

/-- The code alone is accepted, though there is no fourth byte and the buffer had a hyphen there from
the line before. -/
theorem bareSession_classifies :
    bareSession.protocol.connectOnly = false ∧ 50 ≤ max 20 bareSession.deadline ∧
      Utf8.encode "220" ≠ [] ∧ (Utf8.encode "220").length ≤ Greeting.bufferSize ∧
      (bareSession.resume 20 (ReadBuffer.fresh.filled (Utf8.encode "220-please wait\r\n"))
        [⟨50, .data (Utf8.encode "220")⟩]).up = true := by
  have intime : 50 ≤ max 20 bareSession.deadline := by decide
  have filled : Utf8.encode "220" ≠ [] := by decide
  have fits : (Utf8.encode "220").length ≤ Greeting.bufferSize := by decide
  have classed := bareSession.classifies rfl intime filled fits
    (ReadBuffer.fresh.filled (Utf8.encode "220-please wait\r\n")) []
  exact ⟨rfl, intime, filled, fits, (classed.up (.inl rfl)).1⟩

/-- A mail server that sends a zero behind the code. -/
def nulSession : Session :=
  { protocol := .smtp
    agentName := "probe"
    deadline := 3000
    peer :=
      { arrivals := [⟨0, .data (Utf8.encode "220\x00ready\r\n")⟩]
        tail := .closed
        intake := {} } }

/-- A zero behind the code that was received is not told from one that was not: the piece is neither
the code alone nor the code before a space, and yet its server is up. -/
theorem nulSession_up :
    Utf8.encode "220\x00ready\r\n" ≠ Utf8.encode "220" ∧
      ¬ Utf8.encode "220 " <+: Utf8.encode "220\x00ready\r\n" ∧
      ¬ Utf8.encode "220-" <+: Utf8.encode "220\x00ready\r\n" ∧
      nulSession.peer.script = [⟨0, .data (Utf8.encode "220\x00ready\r\n")⟩] ∧
      nulSession.run.up = true := by
  refine ⟨by decide, by decide, by decide, by decide +kernel, by decide +kernel⟩

end Session

end ServiceProbe
