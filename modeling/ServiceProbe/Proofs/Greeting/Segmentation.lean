import ServiceProbe.Proofs.Greeting.Acceptance
import ServiceProbe.Proofs.Greeting.Rules

/-!
# Segmentation

The same stream can reach a probe in reads of different sizes, and every read is judged by its
own front. The answer does not depend on the cut only where no cut brings a greeting to the
front of a read; everywhere else some cut is accepted and the cut into single bytes is not.
-/

namespace ServiceProbe

/-- Arrivals that bring a stream in reads which are not empty, fit the buffer and are there by the
deadline. -/
structure Segments (deadline : Nat) (stream : List UInt8) (arrivals : List Arrival) : Prop where
  /-- Every arrival is one read in time. -/
  reads : ∀ arrival ∈ arrivals, arrival.due ≤ deadline ∧
    ∃ piece, arrival.delivery = .data piece ∧ piece ≠ [] ∧ piece.length ≤ Greeting.bufferSize
  /-- The reads are the stream, in order. -/
  whole : arrivals.flatMap (fun arrival => arrival.delivery.bytes) = stream

/-- Reads that are not empty, fit and come in time are what is obtained. -/
theorem Segments.obtained_eq {deadline : Nat} {stream : List UInt8} {arrivals : List Arrival}
    (segments : Segments deadline stream arrivals) :
    Arrival.obtained deadline arrivals = arrivals.map fun arrival => arrival.delivery.bytes := by
  have reads := segments.reads
  clear segments
  induction arrivals with
  | nil => rfl
  | cons arrival later ih =>
    obtain ⟨due, delivery⟩ := arrival
    obtain ⟨⟨intime, piece, rfl, hp, fits⟩, hl⟩ := List.forall_mem_cons.mp reads
    rw [Arrival.obtained_piece intime hp fits, ih hl, List.map_cons, Delivery.bytes]

namespace Greeting

/-- The streams that hold a greeting where some cut brings it to the front of a read. In file
transfer everything before the greeting can be waited through; for the other protocols it has
to stand at the start. Of a secure-shell banner the first digit of the second number is enough. -/
def Offers : Protocol → List UInt8 → Prop
  | .tcp, _ | .http, _ => False
  | .ssh, stream =>
    ∃ major number digit rest,
      stream = Utf8.encode "SSH-" ++ (major ++ (Utf8.encode "." ++ digit :: rest)) ∧
        SshVersion.Spells major number ∧ SshVersion.isDigit digit ∧
        major.length + 6 ≤ bufferSize
  | .smtp, stream => Utf8.encode "220" <+: stream
  | .ftp, stream => Utf8.encode "220 " <:+: stream
  | .pop, stream => Utf8.encode "+OK" <+: stream
  | .nntp, stream => Utf8.encode "200" <+: stream ∨ Utf8.encode "201" <+: stream
  | .imap, stream => Utf8.encode "* OK" <+: stream

/-- A piece that is accepted at the start of a stream is a greeting that the stream offers. -/
theorem offers_of_accept {protocol : Protocol} {piece : List UInt8}
    (fits : piece.length ≤ bufferSize) (ha : verdict? protocol piece = some .accept)
    (rest : List UInt8) : Offers protocol (piece ++ rest) := by
  cases protocol with
  | tcp => cases ha
  | http => cases ha
  | ssh =>
    simp only [verdict?, ssh, Option.some.injEq] at ha
    split at ha
    · rename_i found
      obtain ⟨version, hv⟩ := Option.isSome_iff_exists.mp found
      obtain ⟨major, minor, left, rfl, spellsMajor, spellsMinor, -⟩ :=
        SshVersion.ofBanner?_eq_some_iff.mp hv
      obtain ⟨digit, digits, rfl⟩ := List.exists_cons_of_ne_nil spellsMinor.ne_nil
      refine ⟨major, version.major, digit, digits ++ left ++ rest, ?_, spellsMajor,
        spellsMinor.digits digit List.mem_cons_self, ?_⟩
      · simp
      · have h1 : (Utf8.encode "SSH-").length = 4 := by decide
        have h2 : (Utf8.encode ".").length = 1 := by decide
        simp only [List.length_append, List.length_cons, h1, h2] at fits
        omega
    · cases ha
  | smtp =>
    have hs : smtp piece ≠ .refuse := by
      rw [Option.some.inj ha]
      simp
    exact (prefix_of_smtp_ne_refuse hs).trans (List.prefix_append _ _)
  | ftp =>
    have hp := ftp_eq_accept_iff.mp (Option.some.inj ha)
    exact (hp.trans (List.prefix_append _ _)).isInfix
  | pop => exact (pop_eq_accept_iff.mp (Option.some.inj ha)).trans (List.prefix_append _ _)
  | nntp =>
    rcases nntp_eq_accept_iff.mp (Option.some.inj ha) with hp | hp
    · exact Or.inl (hp.trans (List.prefix_append _ _))
    · exact Or.inr (hp.trans (List.prefix_append _ _))
  | imap => exact (imap_eq_accept_iff.mp (Option.some.inj ha)).trans (List.prefix_append _ _)

/-- Outside file transfer only a line that opens with the code is waited through. -/
theorem offers_of_wait {protocol : Protocol} (hp : protocol ≠ .ftp) {piece : List UInt8}
    (hw : verdict? protocol piece = some .wait) (rest : List UInt8) :
    Offers protocol (piece ++ rest) := by
  cases protocol with
  | smtp =>
    have hs : smtp piece ≠ .refuse := by
      rw [Option.some.inj hw]
      simp
    exact (prefix_of_smtp_ne_refuse hs).trans (List.prefix_append _ _)
  | ftp => exact absurd rfl hp
  | ssh => exact absurd hw (verdict?_ssh_ne_wait piece)
  | tcp => cases hw
  | http => cases hw
  | pop | nntp | imap =>
    have he := Option.some.inj hw
    simp only [pop, nntp, imap] at he
    split at he <;> cases he

/-- Every greeting that a stream offers has more than one byte. -/
theorem one_lt_length_of_offers {protocol : Protocol} {stream : List UInt8}
    (offers : Offers protocol stream) : 1 < stream.length := by
  have h3 : (Utf8.encode "220").length = 3 ∧ (Utf8.encode "+OK").length = 3 ∧
      (Utf8.encode "200").length = 3 ∧ (Utf8.encode "201").length = 3 := by decide
  have h4 : (Utf8.encode "220 ").length = 4 ∧ (Utf8.encode "* OK").length = 4 ∧
      (Utf8.encode "SSH-").length = 4 := by decide
  cases protocol with
  | tcp => exact offers.elim
  | http => exact offers.elim
  | ssh =>
    obtain ⟨major, number, digit, rest, rfl, -⟩ := offers
    simp only [List.length_append]
    omega
  | smtp | pop | imap =>
    have hl := List.IsPrefix.length_le offers
    omega
  | ftp =>
    have hl := List.IsInfix.length_le offers
    omega
  | nntp =>
    rcases offers with h | h
    all_goals
      have hl := h.length_le
      omega

/-- A single byte is never accepted. -/
theorem verdict?_singleton_ne_accept (protocol : Protocol) (byte : UInt8) :
    verdict? protocol [byte] ≠ some .accept := by
  intro ha
  have fits : [byte].length ≤ bufferSize := show 1 ≤ bufferSize by decide
  have hl := one_lt_length_of_offers (offers_of_accept fits ha [])
  simp at hl

/-- In file transfer every single byte is waited through. -/
theorem verdict?_ftp_singleton (byte : UInt8) : verdict? .ftp [byte] = some .wait := by
  have hn := verdict?_singleton_ne_accept .ftp byte
  simp only [verdict?, ftp] at hn ⊢
  split
  · rename_i found
    rw [if_pos found] at hn
    exact absurd rfl hn
  · rfl

/-- What a stream offers can be cut out of it: an accepted piece, behind bytes that are waited
through one by one. -/
theorem exists_accepted_of_offers {protocol : Protocol} {stream : List UInt8}
    (offers : Offers protocol stream) :
    ∃ skipped greeting rest, stream = skipped ++ greeting ++ rest ∧
      (∀ byte ∈ skipped, verdict? protocol [byte] = some .wait) ∧
      verdict? protocol greeting = some .accept ∧ greeting.length ≤ bufferSize := by
  cases protocol with
  | tcp => exact offers.elim
  | http => exact offers.elim
  | ssh =>
    obtain ⟨major, number, digit, rest, rfl, spells, isDigit, room⟩ := offers
    obtain ⟨last, spellsLast⟩ := SshVersion.exists_spells_digit isDigit
    refine ⟨[], Utf8.encode "SSH-" ++ (major ++ (Utf8.encode "." ++ [digit])), rest, ?_, ?_, ?_, ?_⟩
    · simp
    · simp
    · have hb : SshVersion.ofBanner?
          (Utf8.encode "SSH-" ++ (major ++ (Utf8.encode "." ++ [digit]))) = some ⟨number, last⟩ :=
        SshVersion.ofBanner?_eq_some_iff.mpr ⟨major, [digit], [], by simp, spells, spellsLast,
          by simp⟩
      simp only [verdict?, ssh, hb]
      rfl
    · have h1 : (Utf8.encode "SSH-").length = 4 := by decide
      have h2 : (Utf8.encode ".").length = 1 := by decide
      simp only [List.length_append, List.length_singleton, h1, h2]
      omega
  | ftp =>
    obtain ⟨skipped, rest, rfl⟩ := offers
    exact ⟨skipped, Utf8.encode "220 ", rest, rfl, fun byte _ => verdict?_ftp_singleton byte,
      by decide, by decide⟩
  | smtp =>
    obtain ⟨rest, rfl⟩ := offers
    exact ⟨[], Utf8.encode "220", rest, by simp, by simp, by decide, by decide⟩
  | pop =>
    obtain ⟨rest, rfl⟩ := offers
    exact ⟨[], Utf8.encode "+OK", rest, by simp, by simp, by decide, by decide⟩
  | nntp =>
    rcases offers with ⟨rest, rfl⟩ | ⟨rest, rfl⟩
    · exact ⟨[], Utf8.encode "200", rest, by simp, by simp, by decide, by decide⟩
    · exact ⟨[], Utf8.encode "201", rest, by simp, by simp, by decide, by decide⟩
  | imap =>
    obtain ⟨rest, rfl⟩ := offers
    exact ⟨[], Utf8.encode "* OK", rest, by simp, by simp, by decide, by decide⟩

end Greeting

/-- A stream that fits one read is one way of cutting it. -/
theorem Segments.single {deadline : Nat} {piece : List UInt8} (hp : piece ≠ [])
    (fits : piece.length ≤ Greeting.bufferSize) :
    Segments deadline piece [⟨0, .data piece⟩] where
  reads := by
    intro arrival hm
    rw [List.mem_singleton.mp hm]
    exact ⟨Nat.zero_le _, piece, rfl, hp, fits⟩
  whole := by simp

/-- Two streams one behind the other are cut where each is cut. -/
theorem Segments.append {deadline : Nat} {stream later : List UInt8}
    {arrivals laterArrivals : List Arrival} (segments : Segments deadline stream arrivals)
    (laterSegments : Segments deadline later laterArrivals) :
    Segments deadline (stream ++ later) (arrivals ++ laterArrivals) where
  reads := by
    intro arrival hm
    rcases List.mem_append.mp hm with hm | hm
    · exact segments.reads arrival hm
    · exact laterSegments.reads arrival hm
  whole := by rw [List.flatMap_append, segments.whole, laterSegments.whole]

/-- A stream that comes byte by byte, all of it at once. -/
def bytewise (stream : List UInt8) : List Arrival := stream.map fun byte => ⟨0, .data [byte]⟩

/-- Every stream can be cut into single bytes. -/
theorem segments_bytewise (deadline : Nat) (stream : List UInt8) :
    Segments deadline stream (bytewise stream) := by
  induction stream with
  | nil => exact ⟨by simp [bytewise], rfl⟩
  | cons byte rest ih =>
    have hb : Segments deadline [byte] [⟨0, .data [byte]⟩] :=
      .single (List.cons_ne_nil _ _) (show 1 ≤ Greeting.bufferSize by decide)
    exact hb.append ih

/-- The reads of a stream that comes byte by byte. -/
theorem map_bytes_bytewise (stream : List UInt8) :
    (bytewise stream).map (fun arrival => arrival.delivery.bytes) =
      stream.map fun byte => [byte] := by
  simp [bytewise, Function.comp_def]

namespace Session

/-- The same session with a peer that sends something else and goes on as before. -/
def fed (session : Session) (arrivals : List Arrival) : Session :=
  { session with peer := { session.peer with arrivals := arrivals } }

/-- How the reads of a stream are judged settles the answer. -/
theorem fed_up_iff {session : Session} (greets : session.protocol.connectOnly = false)
    {stream : List UInt8} {arrivals : List Arrival}
    (segments : Segments session.deadline stream arrivals) :
    (session.fed arrivals).run.up = true ↔
      ∃ waited piece later,
        arrivals.map (fun arrival => arrival.delivery.bytes) = waited ++ piece :: later ∧
          (∀ part ∈ waited, Greeting.verdict? session.protocol part = some .wait) ∧
          Greeting.verdict? session.protocol piece = some .accept := by
  have ho : Arrival.obtained (session.fed arrivals).deadline (session.fed arrivals).peer.arrivals =
      arrivals.map fun arrival => arrival.delivery.bytes := segments.obtained_eq
  have greetsFed : (session.fed arrivals).protocol.connectOnly = false := greets
  rw [run_up_iff_decisive greetsFed, decisive_accept_iff, ho]
  rfl

/-- A stream without a greeting is not accepted in any cut. -/
theorem fed_up_eq_false_of_not_offers {session : Session}
    (greets : session.protocol.connectOnly = false) {stream : List UInt8}
    {arrivals : List Arrival} (segments : Segments session.deadline stream arrivals)
    (hn : ¬ Greeting.Offers session.protocol stream) : (session.fed arrivals).run.up = false := by
  rw [Bool.eq_false_iff]
  intro up
  apply hn
  obtain ⟨waited, piece, later, hs, hw, ha⟩ := (fed_up_iff greets segments).mp up
  have whole : stream = waited.flatten ++ (piece ++ later.flatten) := by
    have hf := congrArg List.flatten hs
    rw [← List.flatMap_def, segments.whole] at hf
    simpa using hf
  have fits : piece.length ≤ Greeting.bufferSize := by
    have hm : piece ∈ arrivals.map fun arrival => arrival.delivery.bytes := by simp [hs]
    obtain ⟨arrival, hmem, rfl⟩ := List.mem_map.mp hm
    obtain ⟨-, bytes, hd, -, hl⟩ := segments.reads arrival hmem
    rw [hd]
    exact hl
  rw [whole]
  by_cases hp : session.protocol = .ftp
  · rw [hp] at ha ⊢
    have hpre := Greeting.ftp_eq_accept_iff.mp (Option.some.inj ha)
    exact hpre.isInfix.trans ⟨waited.flatten, later.flatten, by simp⟩
  · cases waited with
    | nil => exact Greeting.offers_of_accept fits ha later.flatten
    | cons part parts =>
      rw [List.flatten_cons, List.append_assoc]
      exact Greeting.offers_of_wait hp (hw part List.mem_cons_self) _

/-- No stream is accepted byte by byte. -/
theorem fed_bytewise_up {session : Session} (greets : session.protocol.connectOnly = false)
    (stream : List UInt8) : (session.fed (bytewise stream)).run.up = false := by
  rw [Bool.eq_false_iff]
  intro up
  obtain ⟨waited, piece, later, hs, -, ha⟩ :=
    (fed_up_iff greets (segments_bytewise session.deadline stream)).mp up
  rw [map_bytes_bytewise] at hs
  have hm : piece ∈ stream.map fun byte => [byte] := by simp [hs]
  obtain ⟨byte, -, rfl⟩ := List.mem_map.mp hm
  exact Greeting.verdict?_singleton_ne_accept _ _ ha

/-- A greeting that is offered is accepted in some cut. -/
theorem exists_segments_up {session : Session} (greets : session.protocol.connectOnly = false)
    {stream : List UInt8} (offers : Greeting.Offers session.protocol stream) :
    ∃ arrivals, Segments session.deadline stream arrivals ∧
      (session.fed arrivals).run.up = true := by
  obtain ⟨skipped, greeting, rest, rfl, wait, accept, fits⟩ :=
    Greeting.exists_accepted_of_offers offers
  have hne : greeting ≠ [] := by
    have hl := Greeting.one_lt_length_of_offers (Greeting.offers_of_accept fits accept [])
    rintro rfl
    simp at hl
  have segments : Segments session.deadline (skipped ++ greeting ++ rest)
      (bytewise skipped ++ [⟨0, .data greeting⟩] ++ bytewise rest) :=
    ((segments_bytewise _ skipped).append (.single hne fits)).append (segments_bytewise _ rest)
  refine ⟨_, segments, (fed_up_iff greets segments).mpr ?_⟩
  refine ⟨skipped.map fun byte => [byte], greeting, rest.map fun byte => [byte], ?_, ?_, accept⟩
  · simp [map_bytes_bytewise]
  · intro part hm
    obtain ⟨byte, hb, rfl⟩ := List.mem_map.mp hm
    exact wait byte hb

/-- All cuts of a stream have one answer if and only if the stream offers no greeting. -/
theorem same_in_all_cuts_iff {session : Session} (greets : session.protocol.connectOnly = false)
    (stream : List UInt8) :
    (∀ first second, Segments session.deadline stream first →
        Segments session.deadline stream second →
        (session.fed first).run.up = (session.fed second).run.up) ↔
      ¬ Greeting.Offers session.protocol stream := by
  constructor
  · intro same offers
    obtain ⟨arrivals, segments, up⟩ := exists_segments_up greets offers
    rw [same arrivals (bytewise stream) segments (segments_bytewise _ _),
      fed_bytewise_up greets] at up
    cases up
  · intro hn first second segments segments'
    rw [fed_up_eq_false_of_not_offers greets segments hn,
      fed_up_eq_false_of_not_offers greets segments' hn]

end Session

end ServiceProbe
