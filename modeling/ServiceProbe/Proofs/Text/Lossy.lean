import Mathlib.Data.List.Infix
import ServiceProbe.Text.Utf8

/-!
# Lossy text

Which text some bytes are shown as. Where a character is encoded it is shown, and where none is the
longest front that still opens one, or else a single byte, is shown as the replacement character. This
says in one way what any bytes are shown as, without a word of how they are read. The decoder, which
reads one byte at a time and keeps only the bits of an open sequence, comes to just this text.
-/

namespace ServiceProbe.Utf8

/-- Bytes that open a character: there is one whose encoding begins with them. -/
def Opens (part : List UInt8) : Prop := ∃ c, part <+: String.utf8EncodeChar c

/-- A part of some bytes at their front that is shown as one replacement. -/
structure Broken (part rest : List UInt8) : Prop where
  /-- No character is encoded at the front. -/
  unread : ∀ c, ¬ String.utf8EncodeChar c <+: part ++ rest
  /-- The part is not empty. -/
  some : part ≠ []
  /-- It opens a character, or it is a single byte. -/
  short : Opens part ∨ part.length = 1
  /-- Nothing longer opens a character. -/
  longest : ∀ more, more <+: rest → Opens (part ++ more) → more = []

/-- The text that some bytes are shown as. -/
inductive Shows : List UInt8 → List Char → Prop where
  /-- No bytes are shown as no text. -/
  | nil : Shows [] []
  /-- An encoded character is shown as itself, -/
  | character (c : Char) {rest : List UInt8} {text : List Char} (later : Shows rest text) :
    Shows (String.utf8EncodeChar c ++ rest) (c :: text)
  /-- and a broken part as the replacement character. -/
  | broken {part rest : List UInt8} {text : List Char} (front : Broken part rest)
    (later : Shows rest text) : Shows (part ++ rest) ('\uFFFD' :: text)

/-- The same bytes do not begin with two characters. -/
theorem encodeChar_append_inj {c d : Char} {rest other : List UInt8}
    (same : String.utf8EncodeChar c ++ rest = String.utf8EncodeChar d ++ other) :
    c = d ∧ rest = other := by
  have decoded (c : Char) (rest : List UInt8) :
      (String.utf8EncodeChar c ++ rest).toByteArray.utf8DecodeChar? 0 = some c := by
    rw [List.toByteArray_append]
    exact ByteArray.utf8DecodeChar?_utf8EncodeChar_append
  have chars : some c = some d := by rw [← decoded c rest, same, decoded]
  obtain rfl := Option.some.inj chars
  exact ⟨rfl, List.append_cancel_left same⟩

/-- No character is encoded at the front of what another one begins with. -/
theorem encodeChar_prefix_inj {c d : Char}
    (front : String.utf8EncodeChar c <+: String.utf8EncodeChar d) : c = d := by
  obtain ⟨rest, same⟩ := front
  exact (encodeChar_append_inj (same.trans (List.append_nil _).symm)).1

/-- Of two broken parts at the front of the same bytes the second one is no longer. -/
theorem Broken.eq_nil {part more rest : List UInt8} (first : Broken part (more ++ rest))
    (second : Broken (part ++ more) rest) : more = [] := by
  rcases second.short with opens | single
  · exact first.longest more (List.prefix_append _ _) opens
  · have filled := List.length_pos_iff.mpr first.some
    rw [List.length_append] at single
    exact List.length_eq_zero_iff.mp (by omega)

/-- Bytes have one broken part at their front at most. -/
theorem Broken.unique {part rest other otherRest : List UInt8} (first : Broken part rest)
    (second : Broken other otherRest) (same : part ++ rest = other ++ otherRest) :
    part = other ∧ rest = otherRest := by
  rcases List.append_eq_append_iff.mp same with ⟨more, rfl, rfl⟩ | ⟨more, rfl, rfl⟩
  · obtain rfl := first.eq_nil second
    exact ⟨(List.append_nil _).symm, rfl⟩
  · obtain rfl := second.eq_nil first
    exact ⟨List.append_nil _, rfl⟩

/-- Bytes are shown as one text at most. -/
theorem Shows.unique {bytes : List UInt8} {text other : List Char} (first : Shows bytes text)
    (second : Shows bytes other) : text = other := by
  induction first generalizing other with
  | nil =>
    generalize whole : ([] : List UInt8) = bytes at second
    cases second with
    | nil => rfl
    | character c later =>
      exact absurd (List.append_eq_nil_iff.mp whole.symm).1 String.utf8EncodeChar_ne_nil
    | broken front later => exact absurd (List.append_eq_nil_iff.mp whole.symm).1 front.some
  | character c later ih =>
    rename_i rest text
    generalize whole : String.utf8EncodeChar c ++ rest = bytes at second
    cases second with
    | nil => exact absurd (List.append_eq_nil_iff.mp whole).1 String.utf8EncodeChar_ne_nil
    | character d later =>
      obtain ⟨rfl, rfl⟩ := encodeChar_append_inj whole
      rw [ih later]
    | broken front later => exact absurd ⟨_, whole⟩ (front.unread c)
  | broken front later ih =>
    rename_i part rest text
    generalize whole : part ++ rest = bytes at second
    cases second with
    | nil => exact absurd (List.append_eq_nil_iff.mp whole).1 front.some
    | character d later => exact absurd ⟨_, whole.symm⟩ (front.unread d)
    | broken otherFront later =>
      obtain ⟨rfl, rfl⟩ := front.unique otherFront whole
      rw [ih later]

/-- The bytes of a character with this code, by the size of the code. -/
inductive Encodes (code : Nat) : List UInt8 → Prop where
  /-- Seven bits. -/
  | one {lead : UInt8} (high : code ≤ 0x7F) (leads : lead.toNat = code) : Encodes code [lead]
  /-- Eleven bits. -/
  | two {lead last : UInt8} (low : 0x80 ≤ code) (high : code ≤ 0x7FF)
    (leads : lead.toNat = code / 64 + 0xC0) (ends : last.toNat = code % 64 + 0x80) :
    Encodes code [lead, last]
  /-- Sixteen bits. -/
  | three {lead next last : UInt8} (low : 0x800 ≤ code) (high : code ≤ 0xFFFF)
    (leads : lead.toNat = code / 4096 + 0xE0) (nexts : next.toNat = code / 64 % 64 + 0x80)
    (ends : last.toNat = code % 64 + 0x80) : Encodes code [lead, next, last]
  /-- Twenty-one bits. -/
  | four {lead next third last : UInt8} (low : 0x10000 ≤ code)
    (leads : lead.toNat = code / 262144 + 0xF0) (nexts : next.toNat = code / 4096 % 64 + 0x80)
    (thirds : third.toNat = code / 64 % 64 + 0x80) (ends : last.toNat = code % 64 + 0x80) :
    Encodes code [lead, next, third, last]

/-- A code has one encoding at most. -/
theorem Encodes.unique {code : Nat} {bytes other : List UInt8} (first : Encodes code bytes)
    (second : Encodes code other) : bytes = other := by
  have byte {first second : UInt8} {n : Nat} (hf : first.toNat = n) (hs : second.toNat = n) :
      first = second := UInt8.toNat_inj.mp (hf.trans hs.symm)
  -- The sizes leave each code to one constructor.
  cases first with
  | one high leads =>
    cases second with
    | one _ otherLeads => rw [byte leads otherLeads]
    | _ => omega
  | two low high leads ends =>
    cases second with
    | two _ _ otherLeads otherEnds => rw [byte leads otherLeads, byte ends otherEnds]
    | _ => omega
  | three low high leads nexts ends =>
    cases second with
    | three _ _ otherLeads otherNexts otherEnds =>
      rw [byte leads otherLeads, byte nexts otherNexts, byte ends otherEnds]
    | _ => omega
  | four low leads nexts thirds ends =>
    cases second with
    | four _ otherLeads otherNexts otherThirds otherEnds =>
      rw [byte leads otherLeads, byte nexts otherNexts, byte thirds otherThirds,
        byte ends otherEnds]
    | _ => omega

/-- The code of a character is no surrogate and not too large. -/
theorem toNat_scalar (c : Char) : c.toNat < 0xD800 ∨ 0xDFFF < c.toNat ∧ c.toNat < 0x110000 := c.valid

/-- Every such code is that of a character. -/
theorem exists_toNat_eq {code : Nat}
    (scalar : code < 0xD800 ∨ 0xDFFF < code ∧ code < 0x110000) : ∃ c : Char, c.toNat = code :=
  ⟨Char.ofNatAux code scalar, rfl⟩

/-- A character is encoded by the bytes of its code. -/
theorem encodeChar_eq_iff {c : Char} {bytes : List UInt8} :
    String.utf8EncodeChar c = bytes ↔ Encodes c.toNat bytes := by
  have scalar := toNat_scalar c
  have encodes : Encodes c.toNat (String.utf8EncodeChar c) := by
    rw [String.utf8EncodeChar.eq_1, Char.toNat_val]
    split_ifs with one two three
    · refine .one one ?_
      rw [UInt8.toNat_ofNat']
      omega
    · refine .two (by omega) two ?_ ?_ <;> rw [UInt8.toNat_ofNat'] <;> omega
    · refine .three (by omega) three ?_ ?_ ?_ <;> rw [UInt8.toNat_ofNat'] <;> omega
    · refine .four (by omega) ?_ ?_ ?_ ?_ <;> rw [UInt8.toNat_ofNat'] <;> omega
  constructor
  · rintro rfl
    exact encodes
  · exact encodes.unique

/-- What fills an open sequence up, and the code that it comes to. -/
inductive Ends : Position → List UInt8 → Nat → Prop where
  /-- The last byte that is owed. -/
  | last {bits code : Nat} {low high byte : UInt8} (fits : low ≤ byte ∧ byte ≤ high)
    (comes : code = bits * 64 + (byte.toNat - 0x80)) :
    Ends (.inside bits low high 0) [byte] code
  /-- A byte with others owed after it. -/
  | more {bits owed code : Nat} {low high byte : UInt8} {later : List UInt8}
    (fits : low ≤ byte ∧ byte ≤ high)
    (rest : Ends (.inside (bits * 64 + (byte.toNat - 0x80)) 0x80 0xBF owed) later code) :
    Ends (.inside bits low high (owed + 1)) (byte :: later) code

/-- One owed byte is what fills up. -/
theorem ends_zero_iff {bits code : Nat} {low high : UInt8} {more : List UInt8} :
    Ends (.inside bits low high 0) more code ↔ ∃ last, (low ≤ last ∧ last ≤ high) ∧
      more = [last] ∧ code = bits * 64 + (last.toNat - 0x80) := by
  constructor
  · intro ends
    cases ends with
    | last fits comes => exact ⟨_, fits, rfl, comes⟩
  · rintro ⟨last, fits, rfl, comes⟩
    exact .last fits comes

/-- Of several the first is read, and the others fill up what is open then. -/
theorem ends_succ_iff {bits owed code : Nat} {low high : UInt8} {more : List UInt8} :
    Ends (.inside bits low high (owed + 1)) more code ↔ ∃ next later,
      (low ≤ next ∧ next ≤ high) ∧ more = next :: later ∧
        Ends (.inside (bits * 64 + (next.toNat - 0x80)) 0x80 0xBF owed) later code := by
  constructor
  · intro ends
    cases ends with
    | more fits rest => exact ⟨_, _, fits, rfl, rest⟩
  · rintro ⟨next, later, fits, rfl, rest⟩
    exact .more fits rest

/-- An open sequence can be filled up. -/
theorem exists_ends (bits owed : Nat) {low high : UInt8} (bounds : low ≤ high) :
    ∃ more code, Ends (.inside bits low high owed) more code := by
  induction owed generalizing bits low high with
  | zero => exact ⟨[low], _, .last ⟨UInt8.le_refl _, bounds⟩ rfl⟩
  | succ owed ih =>
    obtain ⟨more, code, rest⟩ :=
      ih (bits * 64 + (low.toNat - 0x80)) (show (0x80 : UInt8) ≤ 0xBF by decide)
    exact ⟨low :: more, code, .more ⟨UInt8.le_refl _, bounds⟩ rest⟩

/-- Something is owed to an open sequence. -/
theorem Ends.ne_nil {position : Position} {more : List UInt8} {code : Nat}
    (ends : Ends position more code) : more ≠ [] := by
  cases ends <;> exact List.cons_ne_nil _ _

/-- Where the decoder stands behind the bytes that it has read since the last boundary. -/
inductive Stands : List UInt8 → Position → Prop where
  /-- Nothing was read since then. -/
  | boundary : Stands [] .boundary
  /-- What was read is the front of the characters that fill the sequence up, and the next byte has
  its bounds. -/
  | inside {read : List UInt8} {bits owed : Nat} {low high : UInt8} (some : read ≠ [])
    (filled : ∀ more code, Ends (.inside bits low high owed) more code ↔
      ∃ c : Char, c.toNat = code ∧ String.utf8EncodeChar c = read ++ more)
    (bounds : low ≤ high) : Stands read (.inside bits low high owed)

/-- The bytes behind the first one or two of a character. -/
theorem tail_iff {byte : UInt8} :
    (0x80 ≤ byte ∧ byte ≤ 0xBF) ↔ 0x80 ≤ byte.toNat ∧ byte.toNat ≤ 0xBF := by
  rw [UInt8.le_iff_toNat_le, UInt8.le_iff_toNat_le]
  exact Iff.rfl

/-- The first byte of two. -/
theorem stands_two {lead : UInt8} {bits : Nat}
    (leads : lead.toNat = bits + 0xC0 ∧ 2 ≤ bits ∧ bits < 32) :
    Stands [lead] (.inside bits 0x80 0xBF 0) := by
  refine .inside (List.cons_ne_nil _ _) ?_ (by decide)
  intro more code
  simp only [encodeChar_eq_iff, List.singleton_append]
  constructor
  · intro ends
    obtain ⟨last, fits, rfl, comes⟩ := ends_zero_iff.mp ends
    have tail := tail_iff.mp fits
    have small : code < 0xD800 := by omega
    obtain ⟨c, rfl⟩ := exists_toNat_eq (.inl small)
    exact ⟨c, rfl, .two (by omega) (by omega) (by omega) (by omega)⟩
  · rintro ⟨c, rfl, encodes⟩
    cases encodes with
    | two => exact .last (tail_iff.mpr (by omega)) (by omega)
    | _ => omega

section Bounds

variable {low high : UInt8} {bits top least most : Nat}
  (lower : low.toNat = if bits = 0 then least else 0x80)
  (upper : high.toNat = if bits = top then most else 0xBF)

include lower upper

/-- The byte behind the first one of three or four is bounded further behind two of these: the bounds
leave out what fewer bytes would do for, the surrogates and what is past the last code. -/
theorem bounds_iff (within : 0x80 ≤ least ∧ most ≤ 0xBF) (next : UInt8) :
    (low ≤ next ∧ next ≤ high) ↔ (0x80 ≤ next.toNat ∧ next.toNat ≤ 0xBF) ∧
      (bits = 0 → least ≤ next.toNat) ∧ (bits = top → next.toNat ≤ most) := by
  rw [UInt8.le_iff_toNat_le, UInt8.le_iff_toNat_le, lower, upper]
  split_ifs <;> omega

/-- There is always such a byte. -/
theorem low_le_high (within : least ≤ 0xBF ∧ 0x80 ≤ most) (other : top ≠ 0) : low ≤ high := by
  rw [UInt8.le_iff_toNat_le, lower, upper]
  split_ifs <;> omega

end Bounds

/-- The first byte of three. -/
theorem stands_three {lead low high : UInt8} {bits : Nat}
    (leads : lead.toNat = bits + 0xE0 ∧ bits < 16)
    (lower : low.toNat = if bits = 0 then 0xA0 else 0x80)
    (upper : high.toNat = if bits = 0xD then 0x9F else 0xBF) :
    Stands [lead] (.inside bits low high 1) := by
  have bounds := bounds_iff lower upper (by decide)
  refine .inside (List.cons_ne_nil _ _) ?_ (low_le_high lower upper (by decide) (by decide))
  intro more code
  simp only [encodeChar_eq_iff, List.singleton_append]
  constructor
  · intro ends
    obtain ⟨next, later, nextFits, rfl, rest⟩ := ends_succ_iff.mp ends
    obtain ⟨last, fits, rfl, comes⟩ := ends_zero_iff.mp rest
    have nextTail := (bounds next).mp nextFits
    have tail := tail_iff.mp fits
    have scalar : code < 0xD800 ∨ 0xDFFF < code ∧ code < 0x110000 := by omega
    obtain ⟨c, rfl⟩ := exists_toNat_eq scalar
    exact ⟨c, rfl, .three (by omega) (by omega) (by omega) (by omega) (by omega)⟩
  · rintro ⟨c, rfl, encodes⟩
    have scalar := toNat_scalar c
    cases encodes with
    | three =>
      exact .more ((bounds _).mpr (by omega)) (.last (tail_iff.mpr (by omega)) (by omega))
    | _ => omega

/-- The first byte of four. -/
theorem stands_four {lead low high : UInt8} {bits : Nat}
    (leads : lead.toNat = bits + 0xF0 ∧ bits < 5)
    (lower : low.toNat = if bits = 0 then 0x90 else 0x80)
    (upper : high.toNat = if bits = 4 then 0x8F else 0xBF) :
    Stands [lead] (.inside bits low high 2) := by
  have bounds := bounds_iff lower upper (by decide)
  refine .inside (List.cons_ne_nil _ _) ?_ (low_le_high lower upper (by decide) (by decide))
  intro more code
  simp only [encodeChar_eq_iff, List.singleton_append]
  constructor
  · intro ends
    obtain ⟨next, behindNext, nextFits, rfl, rest⟩ := ends_succ_iff.mp ends
    obtain ⟨third, behindThird, thirdFits, rfl, owed⟩ := ends_succ_iff.mp rest
    obtain ⟨last, fits, rfl, comes⟩ := ends_zero_iff.mp owed
    have nextTail := (bounds next).mp nextFits
    have thirdTail := tail_iff.mp thirdFits
    have tail := tail_iff.mp fits
    have scalar : code < 0xD800 ∨ 0xDFFF < code ∧ code < 0x110000 := by omega
    obtain ⟨c, rfl⟩ := exists_toNat_eq scalar
    exact ⟨c, rfl, .four (by omega) (by omega) (by omega) (by omega) (by omega)⟩
  · rintro ⟨c, rfl, encodes⟩
    have scalar := toNat_scalar c
    cases encodes with
    | four =>
      exact .more ((bounds _).mpr (by omega))
        (.more (tail_iff.mpr (by omega)) (.last (tail_iff.mpr (by omega)) (by omega)))
    | _ => omega

/-- What a first byte is: a whole character, the front of one, or none. -/
theorem first_cases (byte : UInt8) :
    (∃ c, String.utf8EncodeChar c = [byte] ∧ first byte = (.boundary, [c])) ∨
      (∃ position, Stands [byte] position ∧ first byte = (position, [])) ∨
      ((¬ Opens [byte]) ∧ first byte = (.boundary, ['\uFFFD'])) := by
  have size := byte.toNat_lt
  generalize read : first byte = result
  unfold first at read
  dsimp only at read
  split_ifs at read with one two e0 ed three f0 four f4 <;> subst read
  · have small : byte.toNat < 0xD800 := by omega
    obtain ⟨c, same⟩ := exists_toNat_eq (.inl small)
    refine .inl ⟨c, encodeChar_eq_iff.mpr (.one (by omega) same.symm), ?_⟩
    rw [← same, Char.ofNat_toNat]
  · exact .inr (.inl ⟨_, stands_two (by omega), rfl⟩)
  · exact .inr (.inl ⟨_, stands_three (by omega) rfl rfl, rfl⟩)
  · exact .inr (.inl ⟨_, stands_three (by omega) rfl rfl, rfl⟩)
  · refine .inr (.inl ⟨_, stands_three (by omega) ?_ ?_, rfl⟩)
    · exact (if_neg (by omega)).symm
    · exact (if_neg (by omega)).symm
  · exact .inr (.inl ⟨_, stands_four (by omega) rfl rfl, rfl⟩)
  · refine .inr (.inl ⟨_, stands_four (by omega) ?_ ?_, rfl⟩)
    · exact (if_neg (by omega)).symm
    · exact (if_neg (by omega)).symm
  · exact .inr (.inl ⟨_, stands_four (by omega) rfl rfl, rfl⟩)
  · -- What is left are the bytes behind a first one and those that no encoding has.
    refine .inr (.inr ⟨?_, rfl⟩)
    rintro ⟨c, more, encodes⟩
    have scalar := toNat_scalar c
    cases encodeChar_eq_iff.mp encodes.symm <;> omega

/-- The bytes of an open sequence open a character and are none. -/
theorem Stands.exists_char {read : List UInt8} {bits owed : Nat} {low high : UInt8}
    (stands : Stands read (.inside bits low high owed)) :
    ∃ c more, more ≠ [] ∧ String.utf8EncodeChar c = read ++ more := by
  cases stands with
  | inside some filled bounds =>
    obtain ⟨more, code, ends⟩ := exists_ends bits owed bounds
    obtain ⟨c, -, encodes⟩ := (filled more code).mp ends
    exact ⟨c, more, ends.ne_nil, encodes⟩

/-- An open sequence is shown as one replacement if what comes next does not belong to it. -/
theorem Stands.broken {read rest : List UInt8} {bits owed : Nat} {low high : UInt8}
    (stands : Stands read (.inside bits low high owed))
    (barred : ∀ byte ∈ rest.head?, ¬ Opens (read ++ [byte])) : Broken read rest := by
  obtain ⟨c, more, owes, encodes⟩ := stands.exists_char
  have longest : ∀ more, more <+: rest → Opens (read ++ more) → more = [] := by
    intro more front opens
    cases more with
    | nil => rfl
    | cons byte later =>
      obtain ⟨behind, rfl⟩ := front
      obtain ⟨d, whole⟩ := opens
      have next : read ++ [byte] <+: read ++ byte :: later :=
        (List.prefix_append_right_inj read).mpr ⟨later, rfl⟩
      exact absurd ⟨d, next.trans whole⟩ (barred byte rfl)
  have unfilled : ∀ d, ¬ String.utf8EncodeChar d <+: read := by
    intro d front
    have whole : read <+: String.utf8EncodeChar c := ⟨more, encodes.symm⟩
    obtain rfl := encodeChar_prefix_inj (front.trans whole)
    have short := front.length_le
    rw [encodes, List.length_append] at short
    exact owes (List.length_eq_zero_iff.mp (by omega))
  refine ⟨?_, ?_, .inl ⟨c, more, encodes.symm⟩, longest⟩
  · intro d front
    rcases List.prefix_or_prefix_of_prefix front (List.prefix_append read rest) with short | long
    · exact unfilled d short
    · obtain ⟨later, whole⟩ := long
      rw [← whole, List.prefix_append_right_inj] at front
      have none := longest later front ⟨d, by rw [whole]⟩
      rw [none, List.append_nil] at whole
      exact unfilled d (by rw [whole])
  · cases stands with
    | inside some filled bounds => exact some

/-- The next byte of an open sequence: the sequence is filled up, or goes on, or no character goes on
with this byte. -/
theorem Stands.step_cases {read : List UInt8} {bits owed : Nat} {low high : UInt8}
    (stands : Stands read (.inside bits low high owed)) (byte : UInt8) :
    (∃ c, String.utf8EncodeChar c = read ++ [byte] ∧
        step (.inside bits low high owed) byte = (.boundary, [c])) ∨
      (∃ position, Stands (read ++ [byte]) position ∧
        step (.inside bits low high owed) byte = (position, [])) ∨
      ((¬ Opens (read ++ [byte])) ∧ step (.inside bits low high owed) byte =
        ((first byte).1, '\uFFFD' :: (first byte).2)) := by
  cases stands with
  | inside some filled bounds =>
    by_cases fits : low ≤ byte ∧ byte ≤ high
    · cases owed with
      | zero =>
        obtain ⟨c, code, encodes⟩ := (filled _ _).mp (.last fits rfl)
        refine .inl ⟨c, encodes, ?_⟩
        simp only [step, if_pos fits, ← code, Char.ofNat_toNat]
      | succ owed =>
        refine .inr (.inl ⟨.inside (bits * 64 + (byte.toNat - 0x80)) 0x80 0xBF owed,
          .inside (by simp) ?_ (by decide), by rw [step, if_pos fits]⟩)
        intro more code
        rw [List.append_assoc, List.singleton_append, ← filled, ends_succ_iff]
        constructor
        · intro rest
          exact ⟨byte, more, fits, rfl, rest⟩
        · rintro ⟨next, later, -, same, rest⟩
          cases same
          exact rest
    · refine .inr (.inr ⟨?_, ?_⟩)
      · rintro ⟨c, more, encodes⟩
        rw [List.append_assoc, List.singleton_append] at encodes
        have ends := (filled _ _).mpr ⟨c, rfl, encodes.symm⟩
        cases owed with
        | zero =>
          obtain ⟨last, lastFits, same, -⟩ := ends_zero_iff.mp ends
          cases same
          exact fits lastFits
        | succ owed =>
          obtain ⟨next, later, nextFits, same, -⟩ := ends_succ_iff.mp ends
          cases same
          exact fits nextFits
      · rw [step, if_neg fits]
        rfl

/-- A byte that opens no character is shown as a replacement. -/
theorem broken_singleton {byte : UInt8} (stray : ¬ Opens [byte]) (rest : List UInt8) :
    Broken [byte] rest := by
  have barred : ∀ more, ¬ Opens (byte :: more) := by
    rintro more ⟨c, front⟩
    exact stray ⟨c, List.IsPrefix.trans ⟨more, rfl⟩ front⟩
  refine ⟨?_, List.cons_ne_nil _ _, .inr rfl, ?_⟩
  · rintro c ⟨later, whole⟩
    have some : String.utf8EncodeChar c ≠ [] := String.utf8EncodeChar_ne_nil
    obtain ⟨first, more, encodes⟩ := List.exists_cons_of_ne_nil some
    rw [encodes] at whole
    obtain rfl : first = byte := (List.cons.inj whole).1
    exact barred more ⟨c, by rw [encodes]⟩
  · intro more _ opens
    exact absurd opens (barred more)

/-- What a first byte and the bytes behind it are shown as. -/
theorem shows_first {byte : UInt8} {rest : List UInt8} {text : List Char}
    (later : ∀ read, Stands read (first byte).1 → Shows (read ++ rest) text) :
    Shows (byte :: rest) ((first byte).2 ++ text) := by
  rcases first_cases byte with ⟨c, encodes, read⟩ | ⟨position, stands, read⟩ | ⟨stray, read⟩
  · rw [read] at later ⊢
    have shown := Shows.character c (later [] .boundary)
    rwa [encodes] at shown
  · rw [read] at later ⊢
    exact later [byte] stands
  · rw [read] at later ⊢
    exact .broken (broken_singleton stray rest) (later [] .boundary)

/-- What any next byte and the bytes behind it are shown as. -/
theorem shows_step {position : Position} {read : List UInt8} (stands : Stands read position)
    {byte : UInt8} {rest : List UInt8} {text : List Char}
    (later : ∀ read, Stands read (step position byte).1 → Shows (read ++ rest) text) :
    Shows (read ++ byte :: rest) ((step position byte).2 ++ text) := by
  cases position with
  | boundary =>
    cases stands with
    | boundary => exact shows_first later
  | inside bits low high owed =>
    rw [← List.singleton_append, ← List.append_assoc]
    rcases stands.step_cases byte with ⟨c, encodes, read⟩ | ⟨position, stands, read⟩ | ⟨barred, read⟩
    · rw [read] at later ⊢
      have shown := Shows.character c (later [] .boundary)
      rwa [encodes] at shown
    · rw [read] at later ⊢
      exact later _ stands
    · rw [read] at later ⊢
      rw [List.append_assoc, List.singleton_append]
      refine .broken (stands.broken ?_) (shows_first later)
      rintro _ ⟨⟩
      exact barred

/-- From wherever the decoder stands it comes to what is shown. -/
theorem shows_decodeFrom {position : Position} {read bytes : List UInt8}
    (stands : Stands read position) : Shows (read ++ bytes) (decodeFrom position bytes) := by
  fun_induction decodeFrom position bytes generalizing read with
  | case1 =>
    cases stands with
    | boundary => exact .nil
  | case2 bits low high owed =>
    exact .broken (stands.broken (by simp)) .nil
  | case3 position byte rest next characters stepped ih =>
    have shown : (∀ read, Stands read (step position byte).1 →
        Shows (read ++ rest) (decodeFrom next rest)) →
          Shows (read ++ byte :: rest) ((step position byte).2 ++ decodeFrom next rest) :=
      shows_step stands
    rw [stepped] at shown
    exact shown fun _ stands => ih stands

/-- Bytes are shown as what they are decoded to, and as nothing else. -/
theorem shows_iff {bytes : List UInt8} {text : List Char} :
    Shows bytes text ↔ text = (decodeLossy bytes).toList := by
  have shown : Shows bytes (decodeLossy bytes).toList := by
    rw [decodeLossy, String.toList_ofList]
    exact shows_decodeFrom .boundary
  constructor
  · intro other
    exact other.unique shown
  · rintro rfl
    exact shown

/-- The bytes of a text are shown as that text. -/
theorem decodeLossy_encode (text : String) : decodeLossy (encode text) = text := by
  have shown : Shows (encode text) text.toList := by
    rw [encode]
    induction text.toList with
    | nil => exact .nil
    | cons c rest ih => exact .character c ih
  exact String.toList_inj.mp (shows_iff.mp shown).symm

/-- Two bytes of a character that goes on otherwise are one broken part, and a byte that opens none is
one by itself. -/
example : decodeLossy [0xE2, 0x82, 0x41, 0xFF] = "\uFFFDA\uFFFD" := by decide +kernel

end ServiceProbe.Utf8
