import Mathlib.Data.List.TakeWhile
import ServiceProbe.Proofs.Greeting.Padding
import ServiceProbe.Proofs.Text.Numeral

/-!
# Rules

What the greeting rules ask of bytes, said without the readers that check it: which texts the
bytes begin with, and which runs of digits a secure-shell banner holds. A run of digits is read
to its last digit, so a banner splits in one way only.
-/

namespace ServiceProbe

namespace Greeting

/-- Bytes begin with a text if and only if they are the text and what follows it. -/
theorem after?_eq_some_iff {opening : String} {bytes rest : List UInt8} :
    after? opening bytes = some rest ↔ bytes = Utf8.encode opening ++ rest := by
  simp only [after?, List.isPrefixOf_iff_prefix]
  constructor
  · intro h
    split at h
    · rename_i hp
      cases h
      exact (List.prefix_iff_eq_append.mp hp).symm
    · cases h
  · rintro rfl
    rw [if_pos (List.prefix_append _ _), List.drop_left]

/-- The text is found where it was put. -/
@[simp] theorem after?_append (opening : String) (rest : List UInt8) :
    after? opening (Utf8.encode opening ++ rest) = some rest :=
  after?_eq_some_iff.mpr rfl

/-- Bytes open with a text if and only if it is a prefix of them. -/
theorem opens_iff {opening : String} {bytes : List UInt8} :
    opens opening bytes = true ↔ Utf8.encode opening <+: bytes := by
  simp only [opens, Option.isSome_iff_exists, after?_eq_some_iff]
  constructor
  · rintro ⟨rest, h⟩
    exact ⟨rest, h.symm⟩
  · rintro ⟨rest, h⟩
    exact ⟨rest, h.symm⟩

/-- A rule that asks for one thing only accepts if and only if it is there. -/
theorem ite_eq_accept_iff {found : Bool} {other : Verdict} (ho : other ≠ .accept) :
    (if found then Verdict.accept else other) = .accept ↔ found = true := by
  cases found with
  | false => simpa using ho
  | true => simp

/-- File transfer accepts what begins with the code and a space. -/
theorem ftp_eq_accept_iff {bytes : List UInt8} :
    ftp bytes = .accept ↔ Utf8.encode "220 " <+: bytes := by
  rw [ftp, ite_eq_accept_iff (by simp), opens_iff]

/-- Mailbox access by POP3 accepts what begins with a positive indicator. -/
theorem pop_eq_accept_iff {bytes : List UInt8} :
    pop bytes = .accept ↔ Utf8.encode "+OK" <+: bytes := by
  rw [pop, ite_eq_accept_iff (by simp), opens_iff]

/-- News transfer accepts what begins with either code. -/
theorem nntp_eq_accept_iff {bytes : List UInt8} :
    nntp bytes = .accept ↔ Utf8.encode "200" <+: bytes ∨ Utf8.encode "201" <+: bytes := by
  rw [nntp, ite_eq_accept_iff (by simp), Bool.or_eq_true, opens_iff, opens_iff]

/-- Mailbox access by IMAP accepts what begins with an untagged OK. -/
theorem imap_eq_accept_iff {bytes : List UInt8} :
    imap bytes = .accept ↔ Utf8.encode "* OK" <+: bytes := by
  rw [imap, ite_eq_accept_iff (by simp), opens_iff]

/-- Mail that is not refused begins with the code 220. -/
theorem prefix_of_smtp_ne_refuse {bytes : List UInt8} (h : smtp bytes ≠ .refuse) :
    Utf8.encode "220" <+: bytes := by
  unfold smtp at h
  split at h
  · exact absurd rfl h
  · rename_i found
    exact ⟨[], (after?_eq_some_iff.mp found).symm⟩
  · rename_i found
    exact ⟨_, (after?_eq_some_iff.mp found).symm⟩

/-- A line with the code and a hyphen is waited through, whatever follows. -/
theorem smtp_continued (rest : List UInt8) : smtp (Utf8.encode "220-" ++ rest) = .wait := by
  have hs : Utf8.encode "220-" ++ rest = Utf8.encode "220" ++ '-'.toUInt8 :: rest := by rfl
  rw [hs, smtp, after?_append]
  rfl

/-- A line with the code and a space is accepted, whatever follows. -/
theorem smtp_finished (rest : List UInt8) : smtp (Utf8.encode "220 " ++ rest) = .accept := by
  have hs : Utf8.encode "220 " ++ rest = Utf8.encode "220" ++ ' '.toUInt8 :: rest := by rfl
  rw [hs, smtp, after?_append]
  rfl

end Greeting

namespace SshVersion

/-- A run of digits that spells a number of 32 bits, with any number of leading zeros. -/
structure Spells (run : List UInt8) (number : Fin UInt32.size) : Prop where
  /-- There is a digit. -/
  ne_nil : run ≠ []
  /-- There are only digits. -/
  digits : ∀ byte ∈ run, isDigit byte
  /-- The number is the decimal value of the run. -/
  value : Decimal.value (run.map UInt8.toNat) = number.val

/-- It spells the number digit by digit. -/
theorem spells_iff_numeral {run : List UInt8} {number : Fin UInt32.size} :
    Spells run number ↔ Decimal.Numeral (run.map UInt8.toNat) number.val := by
  have numeral : Decimal.isNumeral (run.map UInt8.toNat) = true ↔
      run ≠ [] ∧ ∀ byte ∈ run, isDigit byte := by
    simp [Decimal.isNumeral, isDigit]
  rw [Decimal.numeral_iff, numeral]
  constructor
  · intro h
    exact ⟨⟨h.ne_nil, h.digits⟩, h.value⟩
  · rintro ⟨⟨some, digits⟩, value⟩
    exact ⟨some, digits, value⟩

/-- A bounded numeral is read if and only if it spells a number below the bound. -/
theorem below?_eq_some_iff {run : List UInt8} {number : Fin UInt32.size} :
    Decimal.below? UInt32.size (run.map UInt8.toNat) = some number ↔ Spells run number := by
  rw [Decimal.below?_eq_some_iff_numeral, spells_iff_numeral]

/-- A number is read if and only if the bytes are a run that spells it and bytes that do not go on
with a digit. -/
theorem readNumber_eq_some_iff {bytes rest : List UInt8} {number : Fin UInt32.size} :
    readNumber bytes = some (number, rest) ↔
      ∃ run, bytes = run ++ rest ∧ Spells run number ∧ ∀ byte ∈ rest.head?, ¬ isDigit byte := by
  unfold readNumber
  constructor
  · intro h
    split at h
    · cases h
    · rename_i found
      cases h
      refine ⟨bytes.takeWhile isDigit, List.takeWhile_append_dropWhile.symm,
        below?_eq_some_iff.mp found, ?_⟩
      intro byte hm
      have hd := List.head?_dropWhile_not isDigit bytes
      rw [Option.mem_def.mp hm] at hd
      simpa using hd
  · rintro ⟨run, rfl, spells, stop⟩
    have ht : run.takeWhile isDigit = run := List.takeWhile_eq_self_iff.mpr spells.digits
    have hd : run.dropWhile isDigit = [] := List.dropWhile_eq_nil_iff.mpr spells.digits
    rw [takeWhile_isDigit_append stop, dropWhile_isDigit_append stop, ht, hd,
      below?_eq_some_iff.mpr spells, List.nil_append]

/-- A dot is no digit. -/
theorem not_isDigit_head?_dot (rest : List UInt8) :
    ∀ byte ∈ (Utf8.encode "." ++ rest).head?, ¬ isDigit byte := by
  intro byte hm
  cases hm
  decide

/-- A banner holds a version if and only if it is the two runs that spell it with the fixed bytes
around them, and the second run is not cut short. -/
theorem ofBanner?_eq_some_iff {bytes : List UInt8} {version : SshVersion} :
    ofBanner? bytes = some version ↔
      ∃ major minor rest,
        bytes = Utf8.encode "SSH-" ++ (major ++ (Utf8.encode "." ++ (minor ++ rest))) ∧
          Spells major version.major ∧ Spells minor version.minor ∧
          ∀ byte ∈ rest.head?, ¬ isDigit byte := by
  unfold ofBanner?
  constructor
  · intro h
    split at h
    · cases h
    · rename_i major afterMajor readMajor
      split at h
      · cases h
      · rename_i minor rest readMinor
        cases h
        obtain ⟨_, hs, hMajor⟩ := Option.bind_eq_some_iff.mp readMajor
        obtain ⟨_, hd, hMinor⟩ := Option.bind_eq_some_iff.mp readMinor
        rw [Greeting.after?_eq_some_iff] at hs hd
        obtain ⟨majorRun, rfl, spellsMajor, -⟩ := readNumber_eq_some_iff.mp hMajor
        obtain ⟨minorRun, rfl, spellsMinor, stop⟩ := readNumber_eq_some_iff.mp hMinor
        subst hs hd
        exact ⟨majorRun, minorRun, rest, rfl, spellsMajor, spellsMinor, stop⟩
  · rintro ⟨major, minor, rest, rfl, spellsMajor, spellsMinor, stop⟩
    have hMajor : readNumber (major ++ (Utf8.encode "." ++ (minor ++ rest))) =
        some (version.major, Utf8.encode "." ++ (minor ++ rest)) :=
      readNumber_eq_some_iff.mpr ⟨major, rfl, spellsMajor, not_isDigit_head?_dot _⟩
    have hMinor : readNumber (minor ++ rest) = some (version.minor, rest) :=
      readNumber_eq_some_iff.mpr ⟨minor, rfl, spellsMinor, stop⟩
    simp only [Greeting.after?_append, Option.bind_some, hMajor, hMinor]

/-- One digit spells a number. -/
theorem exists_spells_digit {digit : UInt8} (hd : isDigit digit) :
    ∃ number, Spells [digit] number := by
  have hv : Decimal.value ([digit].map UInt8.toNat) < UInt32.size := by
    have hb := digit.toNat_lt
    have hs : UInt32.size = 4294967296 := rfl
    simp only [Decimal.value, List.map_cons, List.map_nil, List.foldl_cons, List.foldl_nil]
    omega
  exact ⟨⟨_, hv⟩, List.cons_ne_nil _ _, by simpa using hd, rfl⟩

end SshVersion

end ServiceProbe
