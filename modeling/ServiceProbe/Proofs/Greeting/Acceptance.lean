import ServiceProbe.Proofs.Greeting.Course

/-!
# Acceptance

When a session finds its service up. Over every script of a peer the answer is settled by the
pieces obtained in time: parts of a longer banner up to a piece that the rule of the protocol
accepts. The rule is applied to the bytes of each piece alone, so neither the padding of the
buffer nor what an earlier read left in it has a say, and neither has any writing.
-/

namespace ServiceProbe

namespace Greeting

/-- A protocol that greets has a verdict on all bytes. -/
theorem exists_verdict {protocol : Protocol} (greets : protocol.connectOnly = false)
    (bytes : List UInt8) : ∃ verdict, verdict? protocol bytes = some verdict := by
  cases protocol with
  | tcp => cases greets
  | http => cases greets
  | _ => exact ⟨_, rfl⟩

end Greeting

namespace Session

/-- The deciding piece comes behind the parts of a longer banner and is none itself. -/
theorem decisive?_eq_some_iff {session : Session} {piece : List UInt8} :
    session.decisive? = some piece ↔
      Greeting.verdict? session.protocol piece ≠ some .wait ∧
        ∃ waited later,
          Arrival.obtained session.deadline session.peer.arrivals = waited ++ piece :: later ∧
            ∀ part ∈ waited, Greeting.verdict? session.protocol part = some .wait := by
  simp [decisive?, List.find?_eq_some_iff_append]

/-- The deciding piece is an accepted one if and only if the rules come to accept a piece by waiting
through all before it. -/
theorem decisive_accept_iff {session : Session} :
    (∃ piece, session.decisive? = some piece ∧
        Greeting.verdict? session.protocol piece = some .accept) ↔
      ∃ waited piece later,
        Arrival.obtained session.deadline session.peer.arrivals = waited ++ piece :: later ∧
          (∀ part ∈ waited, Greeting.verdict? session.protocol part = some .wait) ∧
          Greeting.verdict? session.protocol piece = some .accept := by
  constructor
  · rintro ⟨piece, hd, hv⟩
    obtain ⟨-, waited, later, hs, hw⟩ := decisive?_eq_some_iff.mp hd
    exact ⟨waited, piece, later, hs, hw, hv⟩
  · rintro ⟨waited, piece, later, hs, hw, hv⟩
    exact ⟨piece, decisive?_eq_some_iff.mpr ⟨by simp [hv], waited, later, hs, hw⟩, hv⟩

/-- For a protocol that greets, a deciding piece answers the probe if and only if it is
accepted. -/
theorem admits_iff_of_decisive {session : Session} (greets : session.protocol.connectOnly = false)
    {piece : List UInt8} (hd : session.decisive? = some piece) :
    session.admits piece = true ↔ Greeting.verdict? session.protocol piece = some .accept := by
  have hw := (decisive?_eq_some_iff.mp hd).1
  obtain ⟨verdict, hv⟩ := Greeting.exists_verdict greets piece
  simp only [admits, decide_eq_true_eq, hv] at hw ⊢
  cases verdict with
  | accept => simp
  | wait => exact absurd rfl hw
  | refuse => simp

/-- The service is up if and only if the deciding piece is accepted. -/
theorem run_up_iff_decisive {session : Session} (greets : session.protocol.connectOnly = false) :
    session.run.up = true ↔ ∃ piece, session.decisive? = some piece ∧
      Greeting.verdict? session.protocol piece = some .accept := by
  rw [run_up_eq, Option.any_eq_true]
  constructor
  · rintro ⟨piece, hd, ha⟩
    exact ⟨piece, hd, (admits_iff_of_decisive greets hd).mp ha⟩
  · rintro ⟨piece, hd, hv⟩
    exact ⟨piece, hd, (admits_iff_of_decisive greets hd).mpr hv⟩

/-- The service is up if and only if some piece obtained by the deadline is accepted and every
piece before it is a part of a longer banner. -/
theorem run_up_iff_accepted_piece (session : Session)
    (greets : session.protocol.connectOnly = false) :
    session.run.up = true ↔
      ∃ waited piece later,
        Arrival.obtained session.deadline session.peer.arrivals = waited ++ piece :: later ∧
          (∀ part ∈ waited, Greeting.verdict? session.protocol part = some .wait) ∧
          Greeting.verdict? session.protocol piece = some .accept := by
  rw [run_up_iff_decisive greets, decisive_accept_iff]

/-- A file server that sends a long line, a blank one and its ready line in time, and hangs up. -/
def threeLineSession : Session :=
  { protocol := .ftp
    agentName := "probe"
    deadline := 100
    peer :=
      { arrivals :=
          [⟨10, .data (Utf8.encode "220-Welcome to the archive\r\n")⟩,
            ⟨40, .data (Utf8.encode " \r\n")⟩, ⟨100, .data (Utf8.encode "220 ready\r\n")⟩]
        tail := .closed
        intake := { chunk := some 0 } } }

/-- The third line is the accepted piece, though the first one was longer and nothing sent to the
server is taken. -/
theorem threeLineSession_up :
    threeLineSession.protocol.connectOnly = false ∧ threeLineSession.run.up = true := by
  refine ⟨rfl, (run_up_iff_accepted_piece threeLineSession rfl).mpr ?_⟩
  refine ⟨[Utf8.encode "220-Welcome to the archive\r\n", Utf8.encode " \r\n"],
    Utf8.encode "220 ready\r\n", [], ?_, ?_, ?_⟩
  · decide +kernel
  · decide
  · decide

end Session

end ServiceProbe
