import ServiceProbe.Text.Utf8

/-!
# Verdicts on a greeting

What the greeting rules say of the bytes in the read buffer. A rule is not told how many of
them were received, so it sees a zero where nothing was.
-/

namespace ServiceProbe

/-- What a greeting rule says of a buffer. -/
inductive Verdict where
  /-- The greeting is accepted and the probe succeeds. -/
  | accept
  /-- A part of a longer banner; the probe goes on reading. -/
  | wait
  /-- Not the greeting of the protocol; the probe fails. -/
  | refuse
  deriving DecidableEq

namespace Greeting

/-- What follows an opening text, if the bytes begin with it. -/
def after? (opening : String) (bytes : List UInt8) : Option (List UInt8) :=
  if (Utf8.encode opening).isPrefixOf bytes then
    some (bytes.drop (Utf8.encode opening).length)
  else none

/-- Whether bytes begin with a text. -/
def opens (opening : String) (bytes : List UInt8) : Bool := (after? opening bytes).isSome

/-- Mail transfer: the code 220 alone or before a space is a greeting, and before a hyphen a
line of a longer one. -/
def smtp (buffer : List UInt8) : Verdict :=
  match after? "220" buffer with
  | none => .refuse
  | some [] => .accept
  | some (next :: _) =>
    if next = '-'.toUInt8 then .wait
    else if next = 0 ∨ next = ' '.toUInt8 then .accept
    else .refuse

/-- File transfer: the code 220 before a space; all else may be a line of a longer banner. -/
def ftp (buffer : List UInt8) : Verdict := if opens "220 " buffer then .accept else .wait

/-- Mailbox access by POP3: a positive indicator. -/
def pop (buffer : List UInt8) : Verdict := if opens "+OK" buffer then .accept else .refuse

/-- News transfer: the code 200 or 201. -/
def nntp (buffer : List UInt8) : Verdict :=
  if opens "200" buffer || opens "201" buffer then .accept else .refuse

/-- Mailbox access by IMAP: an untagged OK. -/
def imap (buffer : List UInt8) : Verdict := if opens "* OK" buffer then .accept else .refuse

end Greeting

end ServiceProbe
