import ServiceProbe.Proofs.Greeting.Segmentation

/-!
# Banners of several lines

A mail or file server can greet in several lines, of which the last one says that it is ready. A
read that begins with any other line is waited through whole, also where the last line is in it,
so a banner that comes in reads of whole lines is accepted if and only if its last line is a read
of its own.
-/

namespace ServiceProbe

namespace Greeting

/-- The lines of a banner that others follow. In mail transfer they have the code and a hyphen,
and in file transfer they are all lines but the ready line. -/
def Continues : Protocol → List UInt8 → Prop
  | .smtp, line => Utf8.encode "220-" <+: line
  | .ftp, line => line.getLast? = some '\n'.toUInt8 ∧ ¬ Utf8.encode "220 " <+: line
  | _, _ => False

/-- A banner is its lines and the ready line behind them. -/
structure Banner (protocol : Protocol) (lines : List (List UInt8)) (ready : List UInt8) :
    Prop where
  /-- Mail and file servers greet in lines. -/
  lined : protocol = .smtp ∨ protocol = .ftp
  /-- Every line but the ready line has another one behind it. -/
  continues : ∀ line ∈ lines, Continues protocol line
  /-- The ready line has the code and a space. -/
  finishes : Utf8.encode "220 " <+: ready

/-- A read that begins with a line that others follow is waited through. -/
theorem wait_of_continues {protocol : Protocol} {line : List UInt8}
    (continues : Continues protocol line) (rest : List UInt8) :
    verdict? protocol (line ++ rest) = some .wait := by
  cases protocol with
  | smtp =>
    obtain ⟨text, rfl⟩ := continues
    rw [List.append_assoc, verdict?, smtp_continued]
  | ftp =>
    obtain ⟨ends, notReady⟩ := continues
    have hn : ¬ Utf8.encode "220 " <+: line ++ rest := by
      intro hp
      rcases List.prefix_or_prefix_of_prefix hp (List.prefix_append line rest) with h | h
      · exact notReady h
      · -- The whole line would be a part of the code, which holds no line feed.
        have hm : '\n'.toUInt8 ∈ Utf8.encode "220 " := h.subset (List.mem_of_getLast? ends)
        exact absurd hm (by decide)
    rw [verdict?, ftp, if_neg (opens_iff.not.mpr hn)]
  | _ => exact continues.elim

/-- A read that begins with the ready line is accepted. -/
theorem Banner.accept {protocol : Protocol} {lines : List (List UInt8)} {ready : List UInt8}
    (banner : Banner protocol lines ready) : verdict? protocol ready = some .accept := by
  have finishes := banner.finishes
  rcases banner.lined with rfl | rfl
  · obtain ⟨text, rfl⟩ := finishes
    rw [verdict?, smtp_finished]
  · rw [verdict?, ftp_eq_accept_iff.mpr finishes]

/-- A read of several lines is waited through if the first one has others behind it. -/
theorem Banner.wait {protocol : Protocol} {lines : List (List UInt8)} {ready : List UInt8}
    (banner : Banner protocol lines ready) {group : List (List UInt8)} (hne : group ≠ [])
    (within : group ⊆ lines) (more : List (List UInt8)) :
    verdict? protocol (group ++ more).flatten = some .wait := by
  obtain ⟨line, others, rfl⟩ := List.exists_cons_of_ne_nil hne
  have continues := banner.continues line (within List.mem_cons_self)
  rw [List.cons_append, List.flatten_cons]
  exact wait_of_continues continues _

/-- Reads of lines that others follow are all waited through. -/
theorem Banner.wait_all {protocol : Protocol} {lines : List (List UInt8)} {ready : List UInt8}
    (banner : Banner protocol lines ready) {groups : List (List (List UInt8))}
    (filled : ∀ group ∈ groups, group ≠ []) (within : groups.flatten ⊆ lines) :
    ∀ part ∈ groups.map List.flatten, verdict? protocol part = some .wait := by
  intro part hm
  obtain ⟨group, hg, rfl⟩ := List.mem_map.mp hm
  have inside : group ⊆ lines := by
    intro line hl
    exact within (List.mem_flatten_of_mem hg hl)
  have hw := banner.wait (filled group hg) inside []
  rwa [List.append_nil] at hw

/-- Lines that come in groups end with a group that ends with the last line. -/
theorem exists_last_group {groups : List (List (List UInt8))} {lines : List (List UInt8)}
    {ready : List UInt8} (grouped : groups.flatten = lines ++ [ready])
    (filled : ∀ group ∈ groups, group ≠ []) :
    ∃ before front, groups = before ++ [front ++ [ready]] ∧ lines = before.flatten ++ front := by
  have hne : groups ≠ [] := by
    rintro rfl
    simp at grouped
  obtain ⟨before, final, rfl⟩ := (List.eq_nil_or_concat' groups).resolve_left hne
  have hfinal : final ≠ [] := filled final (by simp)
  obtain ⟨front, last, rfl⟩ := (List.eq_nil_or_concat' final).resolve_left hfinal
  have h : before.flatten ++ front ++ [last] = lines ++ [ready] := by simpa using grouped
  obtain ⟨hl, hr⟩ := List.append_inj' h rfl
  exact ⟨before, front, by rw [List.singleton_inj.mp hr], hl.symm⟩

end Greeting

namespace Session

/-- A banner that comes in reads of whole lines is accepted if and only if the last read is the
ready line alone. -/
theorem fed_lines_up_iff {session : Session} (greets : session.protocol.connectOnly = false)
    {lines : List (List UInt8)} {ready : List UInt8}
    (banner : Greeting.Banner session.protocol lines ready) {groups : List (List (List UInt8))}
    (grouped : groups.flatten = lines ++ [ready]) (filled : ∀ group ∈ groups, group ≠ [])
    {arrivals : List Arrival}
    (segments : Segments session.deadline (lines ++ [ready]).flatten arrivals)
    (reads : arrivals.map (fun arrival => arrival.delivery.bytes) = groups.map List.flatten) :
    (session.fed arrivals).run.up = true ↔ groups.getLast? = some [ready] := by
  obtain ⟨before, front, rfl, rfl⟩ := Greeting.exists_last_group grouped filled
  have waited := banner.wait_all (fun group hg => filled group (by simp [hg]))
    (List.subset_append_left before.flatten front)
  have hs : (before ++ [front ++ [ready]]).map List.flatten =
      before.map List.flatten ++ [(front ++ [ready]).flatten] := by simp
  rw [fed_up_iff greets segments, reads, hs]
  by_cases hf : front = []
  · subst hf
    constructor
    · intro _
      simp
    · intro _
      exact ⟨before.map List.flatten, ready, [], by simp, waited, banner.accept⟩
  · have late := banner.wait hf (List.subset_append_right before.flatten front) [ready]
    constructor
    · rintro ⟨skipped, piece, later, he, -, accepted⟩
      have hm : piece ∈ before.map List.flatten ++ [(front ++ [ready]).flatten] := by
        rw [he]
        simp
      have hw : Greeting.verdict? session.protocol piece = some .wait := by
        rcases List.mem_append.mp hm with hm | hm
        · exact waited piece hm
        · rw [List.mem_singleton.mp hm]
          exact late
      rw [hw] at accepted
      cases accepted
    · intro alone
      simp [hf] at alone

/-- All cuts of a stream have one answer if and only if the stream offers no greeting, and of the
cuts of a banner between its lines those are accepted that bring its ready line alone. -/
theorem answers_of_cuts (session : Session) (greets : session.protocol.connectOnly = false)
    (stream : List UInt8) :
    ((∀ first second, Segments session.deadline stream first →
        Segments session.deadline stream second →
        (session.fed first).run.up = (session.fed second).run.up) ↔
      ¬ Greeting.Offers session.protocol stream) ∧
    ∀ (lines : List (List UInt8)) (ready : List UInt8) (groups : List (List (List UInt8)))
      (arrivals : List Arrival), Greeting.Banner session.protocol lines ready →
      stream = (lines ++ [ready]).flatten → groups.flatten = lines ++ [ready] →
      (∀ group ∈ groups, group ≠ []) → Segments session.deadline stream arrivals →
      arrivals.map (fun arrival => arrival.delivery.bytes) = groups.map List.flatten →
      ((session.fed arrivals).run.up = true ↔ groups.getLast? = some [ready]) := by
  refine ⟨same_in_all_cuts_iff greets stream, ?_⟩
  rintro lines ready groups arrivals banner rfl grouped filled segments reads
  exact fed_lines_up_iff greets banner grouped filled segments reads

/-- A mail client whose server has nothing more to say after what it is fed. -/
def mailSession : Session :=
  { protocol := .smtp
    agentName := "probe"
    deadline := 3000
    peer := { arrivals := [], tail := .closed, intake := {} } }

/-- The first line of a banner, which another one follows. -/
def firstLine : List UInt8 := Utf8.encode "220-a\r\n"

/-- The ready line of a banner. -/
def readyLine : List UInt8 := Utf8.encode "220 b\r\n"

/-- The two lines are a banner. -/
theorem banner_firstLine_readyLine : Greeting.Banner .smtp [firstLine] readyLine where
  lined := Or.inl rfl
  continues := List.forall_mem_singleton.mpr (show Utf8.encode "220-" <+: firstLine by decide)
  finishes := by decide

/-- Both lines in one read. -/
theorem segments_oneRead :
    Segments mailSession.deadline (firstLine ++ readyLine)
      [⟨0, .data (firstLine ++ readyLine)⟩] :=
  .single (by decide) (by decide)

/-- Each line in a read of its own. -/
theorem segments_twoReads :
    Segments mailSession.deadline (firstLine ++ readyLine)
      ([⟨0, .data firstLine⟩] ++ [⟨0, .data readyLine⟩]) :=
  .append (.single (by decide) (by decide)) (.single (by decide) (by decide))

/-- The two lines are accepted in two reads and not in one. -/
theorem mailSession_answers :
    ¬ (∀ first second, Segments mailSession.deadline (firstLine ++ readyLine) first →
        Segments mailSession.deadline (firstLine ++ readyLine) second →
        (mailSession.fed first).run.up = (mailSession.fed second).run.up) ∧
      (mailSession.fed ([⟨0, .data firstLine⟩] ++ [⟨0, .data readyLine⟩])).run.up = true ∧
      ¬ (mailSession.fed [⟨0, .data (firstLine ++ readyLine)⟩]).run.up = true := by
  obtain ⟨hall, hlines⟩ := answers_of_cuts mailSession rfl (firstLine ++ readyLine)
  have offers : Greeting.Offers mailSession.protocol (firstLine ++ readyLine) :=
    show Utf8.encode "220" <+: firstLine ++ readyLine by decide
  have two := hlines [firstLine] readyLine [[firstLine], [readyLine]] _
    banner_firstLine_readyLine (by simp) rfl (by simp) segments_twoReads (by simp)
  have one := hlines [firstLine] readyLine [[firstLine, readyLine]] _
    banner_firstLine_readyLine (by simp) rfl (by simp) segments_oneRead (by simp)
  exact ⟨fun same => hall.mp same offers, two.mpr (by simp), fun up => by simpa using one.mp up⟩

/-- One banner, two cuts of it and two answers. -/
theorem one_read_ne_two_reads :
    Greeting.Banner mailSession.protocol [firstLine] readyLine ∧
      Segments mailSession.deadline (firstLine ++ readyLine)
        [⟨0, .data (firstLine ++ readyLine)⟩] ∧
      Segments mailSession.deadline (firstLine ++ readyLine)
        ([⟨0, .data firstLine⟩] ++ [⟨0, .data readyLine⟩]) ∧
      (mailSession.fed [⟨0, .data (firstLine ++ readyLine)⟩]).run.up = false ∧
      (mailSession.fed ([⟨0, .data firstLine⟩] ++ [⟨0, .data readyLine⟩])).run.up = true :=
  ⟨banner_firstLine_readyLine, segments_oneRead, segments_twoReads, by decide +kernel,
    by decide +kernel⟩

end Session

end ServiceProbe
