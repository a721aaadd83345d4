import ServiceProbe.Proofs.Greeting.Version
import ServiceProbe.Proofs.Peer.Delivery
import ServiceProbe.Proofs.Text.Ascii
import ServiceProbe.Settings

/-!
# Identification

The line by which a secure-shell server is answered. Settings let only names through whose
characters are graphic ASCII and no hyphens, and numbers are written in digits; so the line has its
two hyphens from the probe alone, ends where the probe ends it, and gives back the version and the
name that it was made of. A server that greeted with it would be answered by the same line.
-/

namespace ServiceProbe

namespace Settings

/-- What may stand in an agent name is ASCII. -/
theorem lt_of_isNameChar {c : Char} (h : isNameChar c = true) : c.toNat < 128 := by
  simp only [isNameChar, Bool.and_eq_true, decide_eq_true_eq] at h
  omega

/-- Digits may stand in it. -/
theorem isNameChar_of_isDigit {c : Char} (digit : Decimal.isDigit c.toNat = true) :
    isNameChar c = true := by
  have other : c ≠ '-' := by
    rintro rfl
    cases digit
  simp only [Decimal.isDigit, isNameChar, Bool.and_eq_true, decide_eq_true_eq, bne_iff_ne] at *
  exact ⟨by omega, other⟩

/-- Checked settings have a name that was checked. -/
theorem isNameChar_of_checked {timeout : Nat} {name : String} {settings : Settings}
    (valid : checked timeout name = .ok settings) :
    ∀ c ∈ settings.agentName.toList, isNameChar c = true := by
  unfold checked at valid
  split at valid
  · cases valid
  · split at valid
    · rename_i token
      cases valid
      simp only [isToken, Bool.and_eq_true, List.all_eq_true] at token
      exact token.2
    · cases valid

end Settings

namespace SshVersion

/-- The digits of a number, as bytes. -/
def numeral (n : Nat) : List UInt8 := Utf8.encode (String.ofList (Decimal.digits n))

/-- The two numbers of a version with a dot between. -/
def word (version : SshVersion) : List UInt8 :=
  numeral version.major.val ++ (Utf8.encode "." ++ numeral version.minor.val)

/-- What stands between the hyphens of an identification. -/
def words (version : SshVersion) (agentName : String) : List (List UInt8) :=
  [Utf8.encode "SSH", version.word, Utf8.encode agentName]

/-- Bytes of graphic ASCII without a hyphen. -/
def Plain (bytes : List UInt8) : Prop :=
  ∀ byte ∈ bytes, 0x21 ≤ byte.toNat ∧ byte.toNat ≤ 0x7E ∧ byte ≠ '-'.toUInt8

/-- What may stand in an agent name is plain. -/
theorem plain_encode {text : String} (h : ∀ c ∈ text.toList, Settings.isNameChar c = true) :
    Plain (Utf8.encode text) := by
  intro byte hm
  obtain ⟨c, hc, code⟩ :=
    Utf8.exists_of_mem_encode (fun c hc => Settings.lt_of_isNameChar (h c hc)) hm
  have allowed := h c hc
  simp only [Settings.isNameChar, Bool.and_eq_true, decide_eq_true_eq, bne_iff_ne] at allowed
  refine ⟨by omega, by omega, ?_⟩
  rintro rfl
  exact allowed.2 (Char.toNat_inj.mp code.symm)

/-- The digits of a number are plain. -/
theorem isNameChar_of_mem_digits (n : Nat) :
    ∀ c ∈ (String.ofList (Decimal.digits n)).toList, Settings.isNameChar c = true := by
  intro c hc
  rw [String.toList_ofList] at hc
  exact Settings.isNameChar_of_isDigit (Decimal.isDigit_of_mem_digits hc)

/-- The digits of a number spell it. -/
theorem numeral_spells (n : Nat) : Decimal.Numeral ((numeral n).map UInt8.toNat) n := by
  rw [numeral, Utf8.map_toNat_encode fun c hc =>
    Settings.lt_of_isNameChar (isNameChar_of_mem_digits n c hc), String.toList_ofList]
  exact Decimal.numeral_digits n

/-- The words of an identification are plain. -/
theorem plain_of_mem_words (version : SshVersion) {agentName : String}
    (h : ∀ c ∈ agentName.toList, Settings.isNameChar c = true) :
    ∀ bytes ∈ version.words agentName, Plain bytes := by
  have number (n : Nat) : Plain (numeral n) := plain_encode (isNameChar_of_mem_digits n)
  have protocol : Plain (Utf8.encode "SSH") := plain_encode (List.all_eq_true.mp (by decide))
  have point : Plain (Utf8.encode ".") := plain_encode (List.all_eq_true.mp (by decide))
  intro bytes hm
  simp only [words, List.mem_cons, List.not_mem_nil, or_false] at hm
  rcases hm with rfl | rfl | rfl
  · exact protocol
  · intro byte hb
    rcases List.mem_append.mp hb with major | behind
    · exact number _ byte major
    · rcases List.mem_append.mp behind with dot | minor
      · exact point byte dot
      · exact number _ byte minor
  · exact plain_encode h

/-- The line without its end. -/
def front (version : SshVersion) (agentName : String) : List UInt8 :=
  ['-'.toUInt8].intercalate (version.words agentName)

/-- The words, one by one. -/
theorem front_eq (version : SshVersion) (agentName : String) :
    version.front agentName = Utf8.encode "SSH" ++
      '-'.toUInt8 :: (version.word ++ '-'.toUInt8 :: Utf8.encode agentName) := by
  simp only [front, words, List.intercalate, List.intersperse, List.flatten_cons,
    List.flatten_nil, List.singleton_append, List.append_nil]

/-- A line is its words with hyphens between, and its end. -/
theorem encode_identification (version : SshVersion) (agentName : String) :
    Utf8.encode (version.identification agentName) =
      version.front agentName ++ Utf8.encode "\r\n" := by
  have opening : Utf8.encode "SSH-" = Utf8.encode "SSH" ++ ['-'.toUInt8] := by decide
  have hyphen : Utf8.encode "-" = ['-'.toUInt8] := by decide
  simp only [identification, Utf8.encode_append, front_eq, word, numeral, opening, hyphen,
    List.append_assoc, List.cons_append, List.nil_append]

section Line

variable (version : SshVersion) {agentName : String}
  (h : ∀ c ∈ agentName.toList, Settings.isNameChar c = true)

include h

/-- There is no hyphen in a word. -/
theorem hyphen_not_mem_of_mem_words :
    ∀ bytes ∈ version.words agentName, '-'.toUInt8 ∉ bytes := by
  intro bytes hm hyphen
  exact (version.plain_of_mem_words h bytes hm _ hyphen).2.2 rfl

/-- Cut at its hyphens, a line falls into its words. -/
theorem splitOn_front :
    (version.front agentName).splitOn '-'.toUInt8 = version.words agentName :=
  List.splitOn_intercalate _ (version.hyphen_not_mem_of_mem_words h) (List.cons_ne_nil _ _)

/-- Up to its end a line is graphic ASCII. -/
theorem graphic_of_mem_front {byte : UInt8} (hm : byte ∈ version.front agentName) :
    0x21 ≤ byte.toNat ∧ byte.toNat ≤ 0x7E := by
  have plain := version.plain_of_mem_words h
  simp only [words, List.forall_mem_cons] at plain
  obtain ⟨protocol, word, name, -⟩ := plain
  have hyphen : 0x21 ≤ '-'.toUInt8.toNat ∧ '-'.toUInt8.toNat ≤ 0x7E := by decide
  simp only [front_eq, List.mem_append, List.mem_cons] at hm
  rcases hm with hm | rfl | hm | rfl | hm
  · exact ⟨(protocol byte hm).1, (protocol byte hm).2.1⟩
  · exact hyphen
  · exact ⟨(word byte hm).1, (word byte hm).2.1⟩
  · exact hyphen
  · exact ⟨(name byte hm).1, (name byte hm).2.1⟩

/-- A line has the two hyphens between its words and no others. -/
theorem count_hyphen_front : (version.front agentName).count '-'.toUInt8 = 2 := by
  have clean := version.hyphen_not_mem_of_mem_words h
  simp only [words, List.forall_mem_cons] at clean
  obtain ⟨protocol, word, name, -⟩ := clean
  rw [front_eq, List.count_append, List.count_cons_self, List.count_append,
    List.count_cons_self, List.count_eq_zero.mpr protocol, List.count_eq_zero.mpr word,
    List.count_eq_zero.mpr name]

end Line

/-- The parts of a line, from its front to its end. -/
theorem encode_identification_eq_parts (version : SshVersion) (agentName : String) :
    Utf8.encode (version.identification agentName) =
      Utf8.encode "SSH-" ++ (numeral version.major.val ++ (Utf8.encode "." ++
        (numeral version.minor.val ++
          (Utf8.encode "-" ++ (Utf8.encode agentName ++ Utf8.encode "\r\n"))))) := by
  simp only [identification, Utf8.encode_append, numeral, List.append_assoc]

/-- A line opens with the version that it was made of. -/
theorem ofBanner?_identification (version : SshVersion) (agentName : String) :
    ofBanner? (Utf8.encode (version.identification agentName)) = some version := by
  have whole : ∀ byte ∈
      (Utf8.encode "-" ++ (Utf8.encode agentName ++ Utf8.encode "\r\n")).head?,
      ¬ isDigit byte := by
    intro byte hm
    cases hm
    decide
  have major := spells_iff_numeral.mpr (numeral_spells version.major.val)
  have minor := spells_iff_numeral.mpr (numeral_spells version.minor.val)
  exact ofBanner?_eq_some_iff.mpr
    ⟨_, _, _, version.encode_identification_eq_parts agentName, major, minor, whole⟩

/-- Two lines are the same only if their versions and names are. -/
theorem identification_inj {version other : SshVersion} {agentName otherName : String}
    (h : ∀ c ∈ agentName.toList, Settings.isNameChar c = true)
    (ho : ∀ c ∈ otherName.toList, Settings.isNameChar c = true)
    (same : Utf8.encode (version.identification agentName) =
      Utf8.encode (other.identification otherName)) :
    version = other ∧ agentName = otherName := by
  have versions : some version = some other := by
    rw [← version.ofBanner?_identification agentName, same, ofBanner?_identification]
  have fronts : version.front agentName = other.front otherName := by
    rw [encode_identification, encode_identification] at same
    exact List.append_cancel_right same
  have words : version.words agentName = other.words otherName := by
    rw [← version.splitOn_front h, fronts, other.splitOn_front ho]
  have names : Utf8.encode agentName = Utf8.encode otherName := by
    simp only [SshVersion.words, List.cons.injEq] at words
    exact words.2.2.1
  refine ⟨Option.some.inj versions, ?_⟩
  exact Utf8.eq_of_encode_eq (fun c hc => Settings.lt_of_isNameChar (h c hc))
    (fun c hc => Settings.lt_of_isNameChar (ho c hc)) names

/-- What it means that bytes are the identification of a probe in a version and under a name. -/
structure Identifies (version : SshVersion) (agentName : String) (line : List UInt8) : Prop where
  /-- They are these parts, in this order. -/
  parts : line = Utf8.encode "SSH-" ++ (numeral version.major.val ++ (Utf8.encode "." ++
    (numeral version.minor.val ++
      (Utf8.encode "-" ++ (Utf8.encode agentName ++ Utf8.encode "\r\n")))))
  /-- They are a single line. Up to its end there is graphic ASCII only, neither blanks nor controls
  nor bytes of other characters, and cut at its hyphens it gives back the version and the name. -/
  single : ∃ front, line = front ++ Utf8.encode "\r\n" ∧
    (∀ byte ∈ front, 0x21 ≤ byte.toNat ∧ byte.toNat ≤ 0x7E) ∧
    front.splitOn '-'.toUInt8 = version.words agentName
  /-- There are just two hyphens in it. -/
  hyphens : line.count '-'.toUInt8 = 2
  /-- No other version and no other name that settings let through makes this line. -/
  unique : ∀ (other : SshVersion) (timeout : Nat) (name : String) (settings : Settings),
    Settings.checked timeout name = .ok settings →
      line = Utf8.encode (other.identification settings.agentName) →
        version = other ∧ agentName = settings.agentName
  /-- The version is read back from it, with any number of zeros behind it. -/
  readBack : ∀ count, ofBanner? (line ++ List.replicate count 0) = some version

/-- The line in a version is an identification, under any name that settings let through. -/
theorem identifies (version : SshVersion) {agentName : String}
    (h : ∀ c ∈ agentName.toList, Settings.isNameChar c = true) :
    version.Identifies agentName (Utf8.encode (version.identification agentName)) where
  parts := version.encode_identification_eq_parts agentName
  single := by
    refine ⟨version.front agentName, version.encode_identification agentName, ?_,
      version.splitOn_front h⟩
    intro byte hm
    exact version.graphic_of_mem_front h hm
  hyphens := by
    have lineEnd : (Utf8.encode "\r\n").count '-'.toUInt8 = 0 := by decide
    rw [encode_identification, List.count_append, version.count_hyphen_front h, lineEnd]
  unique := by
    intro other timeout name settings valid same
    exact identification_inj h (Settings.isNameChar_of_checked valid) same
  readBack := by
    intro count
    rw [ofBanner?_append_zeros, ofBanner?_identification]

end SshVersion

namespace Greeting

/-- What it means that a buffer is accepted as the greeting of a secure-shell server and answered by
a line: a peer that takes everything gets this line and nothing else. -/
def AnsweredBy (agentName : String) (buffer line : List UInt8) : Prop :=
  ∀ (intake : Intake) (now : Nat), intake.TakesAll →
    ∃ judgement, judge .ssh agentName intake now buffer = some judgement ∧
      judgement.verdict = .accept ∧ judgement.events.flatMap Event.written = line

/-- A version is answered by an identification in the same version. -/
theorem answeredBy_of_version {buffer : List UInt8} {version : SshVersion}
    (found : SshVersion.ofBanner? buffer = some version) (agentName : String) :
    AnsweredBy agentName buffer (Utf8.encode (version.identification agentName)) := by
  intro intake now takesAll
  have accepted : ssh buffer = .accept := by rw [ssh, found]; rfl
  have answer : sshAnswer agentName buffer = version.identification agentName := by
    rw [sshAnswer, found]
  refine ⟨_, rfl, accepted, ?_⟩
  simp only [say, answer?, answer]
  exact Intake.written_send_of_takesAll takesAll now _

/-- A server that greets with a version is answered by one identification in this version under the
agent name, and a server that greets with that very line is answered by the same. -/
theorem answeredInKind {buffer : List UInt8} {version : SshVersion}
    (found : SshVersion.ofBanner? buffer = some version) {timeout : Nat} {name : String}
    {settings : Settings} (valid : Settings.checked timeout name = .ok settings) :
    ∃ line, version.Identifies settings.agentName line ∧
      AnsweredBy settings.agentName buffer line ∧
      ∀ count, AnsweredBy settings.agentName (line ++ List.replicate count 0) line := by
  have identifies := version.identifies (Settings.isNameChar_of_checked valid)
  refine ⟨_, identifies, answeredBy_of_version found _, ?_⟩
  intro count
  exact answeredBy_of_version (identifies.readBack count) _

/-- The greeting of a server that writes its minor number with a zero too many. -/
def zeroPaddedBanner : List UInt8 := Utf8.encode "SSH-2.00-OpenSSH_9.6\r\n"

/-- It is answered in the version 2.0, with one zero. -/
theorem zeroPaddedBanner_answered :
    SshVersion.ofBanner? zeroPaddedBanner = some ⟨⟨2, by decide⟩, ⟨0, by decide⟩⟩ ∧
      Settings.checked 3 "svcprobe_agent" = .ok .standard ∧
      AnsweredBy "svcprobe_agent" zeroPaddedBanner
        (Utf8.encode "SSH-2.0-svcprobe_agent\r\n") := by
  have found : SshVersion.ofBanner? zeroPaddedBanner =
      some ⟨⟨2, by decide⟩, ⟨0, by decide⟩⟩ := by decide
  have valid : Settings.checked 3 "svcprobe_agent" = .ok .standard := by decide
  obtain ⟨line, identifies, answered, -⟩ := answeredInKind found valid
  have written : line = Utf8.encode "SSH-2.0-svcprobe_agent\r\n" := by
    rw [identifies.parts]
    decide
  exact ⟨found, valid, written ▸ answered⟩

end Greeting

end ServiceProbe
