import ServiceProbe.Proofs.Greeting.Rules

/-!
# Versions

Which bytes open with a version of secure shell, and with which one. The two runs of digits may be
as long as they like and begin with zeros; each is taken to its last digit, so an opening is there
in one way only. Its version is read if and only if both numbers have 32 bits, and otherwise none
is, whatever the low bits of the numbers may be.
-/

namespace ServiceProbe.SshVersion

/-- An opening: two runs of digits, the numbers that they spell, and what stands behind them. -/
@[ext]
structure Opening where
  /-- The digits before the dot. -/
  majorRun : List UInt8
  /-- The digits behind the dot. -/
  minorRun : List UInt8
  /-- What stands behind the second run. -/
  rest : List UInt8
  /-- The number before the dot, of any size. -/
  major : Nat
  /-- The number behind the dot, of any size. -/
  minor : Nat

namespace Opening

/-- What it means that some bytes are an opening. -/
structure Of (opening : Opening) (bytes : List UInt8) : Prop where
  /-- The parts make up the bytes, with the name of the protocol in front and a dot between. -/
  parts : bytes = Utf8.encode "SSH-" ++
    (opening.majorRun ++ (Utf8.encode "." ++ (opening.minorRun ++ opening.rest)))
  /-- The first run spells the first number, -/
  major : Decimal.Numeral (opening.majorRun.map UInt8.toNat) opening.major
  /-- and the second run the second one. -/
  minor : Decimal.Numeral (opening.minorRun.map UInt8.toNat) opening.minor
  /-- The second run is not cut short. -/
  whole : ∀ byte ∈ opening.rest.head?, ¬ isDigit byte

end Opening

/-- There are only digits in a run that spells a number. -/
theorem isDigit_of_numeral {run : List UInt8} {n : Nat}
    (spelled : Decimal.Numeral (run.map UInt8.toNat) n) : ∀ byte ∈ run, isDigit byte := by
  intro byte hm
  exact spelled.isDigit_of_mem (List.mem_map_of_mem hm)

/-- Runs of digits that are not cut short are the same in the same bytes. -/
theorem digits_append_inj {first second firstRest secondRest : List UInt8}
    (firstDigits : ∀ byte ∈ first, isDigit byte) (secondDigits : ∀ byte ∈ second, isDigit byte)
    (firstWhole : ∀ byte ∈ firstRest.head?, ¬ isDigit byte)
    (secondWhole : ∀ byte ∈ secondRest.head?, ¬ isDigit byte)
    (same : first ++ firstRest = second ++ secondRest) :
    first = second ∧ firstRest = secondRest := by
  have runs : first = second := by
    have taken := congrArg (List.takeWhile isDigit) same
    rwa [takeWhile_isDigit_append firstWhole, takeWhile_isDigit_append secondWhole,
      List.takeWhile_eq_self_iff.mpr firstDigits, List.takeWhile_eq_self_iff.mpr secondDigits]
      at taken
  subst runs
  exact ⟨rfl, List.append_cancel_left same⟩

/-- Bytes are an opening in one way at most. -/
theorem Opening.Of.unique {first second : Opening} {bytes : List UInt8} (hf : first.Of bytes)
    (hs : second.Of bytes) : first = second := by
  have same := hf.parts.symm.trans hs.parts
  obtain ⟨major, behind⟩ := digits_append_inj (isDigit_of_numeral hf.major)
    (isDigit_of_numeral hs.major) (not_isDigit_head?_dot _) (not_isDigit_head?_dot _)
    (List.append_cancel_left same)
  obtain ⟨minor, rest⟩ := digits_append_inj (isDigit_of_numeral hf.minor)
    (isDigit_of_numeral hs.minor) hf.whole hs.whole (List.append_cancel_left behind)
  have majorNumber := hf.major.unique (major ▸ hs.major)
  have minorNumber := hf.minor.unique (minor ▸ hs.minor)
  exact Opening.ext major minor rest majorNumber minorNumber

/-- A version is read if and only if it is that of an opening. -/
theorem ofBanner?_eq_some_iff_opening {bytes : List UInt8} {version : SshVersion} :
    ofBanner? bytes = some version ↔
      ∃ opening : Opening, opening.Of bytes ∧ opening.major = version.major.val ∧
        opening.minor = version.minor.val := by
  rw [ofBanner?_eq_some_iff]
  simp only [spells_iff_numeral]
  constructor
  · rintro ⟨major, minor, rest, parts, spellsMajor, spellsMinor, whole⟩
    exact ⟨⟨major, minor, rest, _, _⟩, ⟨parts, spellsMajor, spellsMinor, whole⟩, rfl, rfl⟩
  · rintro ⟨opening, ⟨parts, major, minor, whole⟩, sameMajor, sameMinor⟩
    exact ⟨_, _, _, parts, sameMajor ▸ major, sameMinor ▸ minor, whole⟩

/-- No version is read if and only if any opening has a number that is too large. -/
theorem ofBanner?_eq_none_iff_opening {bytes : List UInt8} :
    ofBanner? bytes = none ↔
      ∀ opening : Opening, opening.Of bytes →
        UInt32.size ≤ opening.major ∨ UInt32.size ≤ opening.minor := by
  rw [Option.eq_none_iff_forall_ne_some]
  simp only [ne_eq, ofBanner?_eq_some_iff_opening]
  constructor
  · intro unread opening h
    by_contra! small
    exact unread ⟨⟨_, small.1⟩, ⟨_, small.2⟩⟩ ⟨opening, h, rfl, rfl⟩
  · rintro large version ⟨opening, h, major, minor⟩
    have fits := large opening h
    rw [major, minor] at fits
    have := version.major.isLt
    have := version.minor.isLt
    omega

/-- What it means that the version of some bytes is read exactly. -/
structure ReadExactly (bytes : List UInt8) : Prop where
  /-- A version is read if and only if the bytes are an opening with just these numbers. -/
  found : ∀ version : SshVersion, ofBanner? bytes = some version ↔
    ∃ opening : Opening, opening.Of bytes ∧ opening.major = version.major.val ∧
      opening.minor = version.minor.val
  /-- None is read if and only if they are no opening, or one with a number of more than 32 bits. -/
  missed : ofBanner? bytes = none ↔
    ∀ opening : Opening, opening.Of bytes →
      UInt32.size ≤ opening.major ∨ UInt32.size ≤ opening.minor
  /-- They are an opening in one way at most. -/
  unique : ∀ first second : Opening, first.Of bytes → second.Of bytes → first = second
  /-- Zeros behind them make no difference. -/
  padded : ∀ count, ofBanner? (bytes ++ List.replicate count 0) = ofBanner? bytes

/-- The version of any bytes is read exactly. -/
theorem readExactly (bytes : List UInt8) : ReadExactly bytes where
  found := fun _ => ofBanner?_eq_some_iff_opening
  missed := ofBanner?_eq_none_iff_opening
  unique := fun _ _ => Opening.Of.unique
  padded := ofBanner?_append_zeros bytes

example : ofBanner? (Utf8.encode "SSH-4294967296.0\r\n") = none := by decide

end ServiceProbe.SshVersion
