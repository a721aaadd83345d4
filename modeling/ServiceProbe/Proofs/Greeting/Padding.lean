import Mathlib.Data.List.Infix
import ServiceProbe.Greeting.Session

/-!
# Padding

The rules are handed the whole read buffer, so behind the bytes received they see zeros. No
opening text holds a zero and no zero is a digit, which is why every rule says of the padded
bytes what it says of the bytes alone.
-/

namespace ServiceProbe

namespace Greeting

/-- An opening text without zeros is not completed by zeros. -/
theorem prefix_append_zeros_iff {opening : List UInt8} (clean : 0 ∉ opening)
    (bytes : List UInt8) (count : Nat) :
    opening <+: bytes ++ List.replicate count 0 ↔ opening <+: bytes := by
  induction opening generalizing bytes with
  | nil => simp
  | cons byte rest ih =>
    have cleanRest : 0 ∉ rest := fun hm => clean (List.mem_cons_of_mem _ hm)
    cases bytes with
    | nil =>
      have hn : ¬ byte :: rest <+: List.replicate count 0 := by
        intro hp
        have hz := List.eq_of_mem_replicate (hp.subset List.mem_cons_self)
        exact clean (hz ▸ List.mem_cons_self)
      simpa using hn
    | cons head tail =>
      rw [List.cons_append, List.cons_prefix_cons, List.cons_prefix_cons, ih cleanRest]

/-- What follows an opening text keeps the padding. -/
theorem after?_append_zeros {opening : String} (clean : 0 ∉ Utf8.encode opening)
    (bytes : List UInt8) (count : Nat) :
    after? opening (bytes ++ List.replicate count 0) =
      (after? opening bytes).map (· ++ List.replicate count 0) := by
  have hp := prefix_append_zeros_iff clean bytes count
  simp only [after?, List.isPrefixOf_iff_prefix, hp]
  split
  · rename_i found
    rw [Option.map_some, List.drop_append_of_le_length found.length_le]
  · rfl

/-- Padding never makes bytes begin with a text. -/
theorem opens_append_zeros (opening : String) (clean : 0 ∉ Utf8.encode opening)
    (bytes : List UInt8) (count : Nat) :
    opens opening (bytes ++ List.replicate count 0) = opens opening bytes := by
  rw [opens, opens, after?_append_zeros clean, Option.isSome_map]

/-- A bare code and a code before a zero are both accepted, so padding does not show. -/
theorem smtp_append_zeros (bytes : List UInt8) (count : Nat) :
    smtp (bytes ++ List.replicate count 0) = smtp bytes := by
  unfold smtp
  rw [after?_append_zeros (by decide)]
  cases after? "220" bytes with
  | none => rfl
  | some rest =>
    cases rest with
    | cons next rest => rfl
    | nil => cases count <;> rfl

end Greeting

namespace SshVersion

/-- The run of digits at the front ends where bytes follow that start with no digit. -/
theorem takeWhile_isDigit_append {rest : List UInt8} (stop : ∀ byte ∈ rest.head?, ¬ isDigit byte)
    (bytes : List UInt8) : (bytes ++ rest).takeWhile isDigit = bytes.takeWhile isDigit := by
  have hr : rest.takeWhile isDigit = [] := by
    cases rest with
    | nil => rfl
    | cons byte rest => exact List.takeWhile_cons_of_neg (stop byte rfl)
  rw [List.takeWhile_append, hr, List.append_nil]
  split
  · rename_i whole
    exact ((List.takeWhile_prefix isDigit).eq_of_length whole).symm
  · rfl

/-- What follows the run of digits at the front keeps such bytes behind it. -/
theorem dropWhile_isDigit_append {rest : List UInt8} (stop : ∀ byte ∈ rest.head?, ¬ isDigit byte)
    (bytes : List UInt8) :
    (bytes ++ rest).dropWhile isDigit = bytes.dropWhile isDigit ++ rest := by
  have hr : rest.dropWhile isDigit = rest := by
    cases rest with
    | nil => rfl
    | cons byte rest => exact List.dropWhile_cons_of_neg (stop byte rfl)
  rw [List.dropWhile_append, hr]
  split
  · rename_i whole
    rw [List.isEmpty_iff.mp whole, List.nil_append]
  · rfl

/-- A number is read to its last digit, so what follows it is handed on untouched. -/
theorem readNumber_append {rest : List UInt8} (stop : ∀ byte ∈ rest.head?, ¬ isDigit byte)
    (bytes : List UInt8) :
    readNumber (bytes ++ rest) =
      (readNumber bytes).map fun read => (read.1, read.2 ++ rest) := by
  simp only [readNumber, takeWhile_isDigit_append stop, dropWhile_isDigit_append stop]
  split <;> rfl

/-- No zero is a digit. -/
theorem not_isDigit_head?_zeros (count : Nat) :
    ∀ byte ∈ (List.replicate count (0 : UInt8)).head?, ¬ isDigit byte := by
  intro byte hm
  have hz : byte = 0 := List.eq_of_mem_replicate (List.mem_of_mem_head? hm)
  subst hz
  decide

/-- A banner with zeros behind it holds the same version, or none as before. -/
theorem ofBanner?_append_zeros (bytes : List UInt8) (count : Nat) :
    ofBanner? (bytes ++ List.replicate count 0) = ofBanner? bytes := by
  have stop := not_isDigit_head?_zeros count
  unfold ofBanner?
  rw [Greeting.after?_append_zeros (by decide)]
  cases Greeting.after? "SSH-" bytes with
  | none => rfl
  | some rest =>
    simp only [Option.map_some, Option.bind_some, readNumber_append stop]
    cases readNumber rest with
    | none => rfl
    | some read =>
      simp only [Option.map_some]
      rw [Greeting.after?_append_zeros (by decide)]
      cases Greeting.after? "." read.2 with
      | none => rfl
      | some rest =>
        simp only [Option.map_some, Option.bind_some, readNumber_append stop]
        cases readNumber rest <;> rfl

end SshVersion

namespace Greeting

/-- Padding invariance: every rule says of the whole buffer what it says of the bytes in it. -/
theorem verdict?_append_zeros (protocol : Protocol) (bytes : List UInt8) (count : Nat) :
    verdict? protocol (bytes ++ List.replicate count 0) = verdict? protocol bytes := by
  cases protocol with
  | tcp => rfl
  | http => rfl
  | ssh => simp only [verdict?, ssh, SshVersion.ofBanner?_append_zeros]
  | smtp => simp only [verdict?, smtp_append_zeros]
  | ftp => simp only [verdict?, ftp, opens_append_zeros "220 " (by decide)]
  | pop => simp only [verdict?, pop, opens_append_zeros "+OK" (by decide)]
  | nntp =>
    simp only [verdict?, nntp, opens_append_zeros "200" (by decide),
      opens_append_zeros "201" (by decide)]
  | imap => simp only [verdict?, imap, opens_append_zeros "* OK" (by decide)]

/-- The answer to a secure-shell server does not depend on the padding. -/
theorem sshAnswer_append_zeros (agentName : String) (bytes : List UInt8) (count : Nat) :
    sshAnswer agentName (bytes ++ List.replicate count 0) = sshAnswer agentName bytes := by
  simp only [sshAnswer, SshVersion.ofBanner?_append_zeros]

/-- A secure-shell banner is judged at once. -/
theorem ssh_accept_or_refuse (bytes : List UInt8) : ssh bytes = .accept ∨ ssh bytes = .refuse := by
  unfold ssh
  split
  · exact Or.inl rfl
  · exact Or.inr rfl

/-- No secure-shell banner is waited through. -/
theorem verdict?_ssh_ne_wait (bytes : List UInt8) : verdict? .ssh bytes ≠ some .wait := by
  intro hw
  have he : ssh bytes = .wait := Option.some.inj hw
  rcases ssh_accept_or_refuse bytes with h | h
  · rw [h] at he
    cases he
  · rw [h] at he
    cases he

end Greeting

end ServiceProbe
