import ServiceProbe.Greeting.Verdict
import ServiceProbe.Text.Decimal

/-!
# Secure-shell identification

A secure-shell server opens with `SSH-`, its protocol version as two numbers with a dot between
them, and more. The probe answers in the same version, under its own software name, and with a
reject line where it found no version.
-/

namespace ServiceProbe

/-- A protocol version of secure shell; each number has 32 bits. -/
structure SshVersion where
  /-- The number before the dot. -/
  major : Fin UInt32.size
  /-- The number after the dot. -/
  minor : Fin UInt32.size
  deriving DecidableEq

namespace SshVersion

/-- Whether a byte is an ASCII digit. -/
def isDigit (byte : UInt8) : Bool := Decimal.isDigit byte.toNat

/-- The number at the front of some bytes, read to its last digit, and what follows it. A
number of more than 32 bits is none. -/
def readNumber (bytes : List UInt8) : Option (Fin UInt32.size × List UInt8) :=
  match Decimal.below? UInt32.size ((bytes.takeWhile isDigit).map UInt8.toNat) with
  | none => none
  | some number => some (number, bytes.dropWhile isDigit)

/-- The version in the banner at the front of some bytes. -/
def ofBanner? (bytes : List UInt8) : Option SshVersion :=
  match (Greeting.after? "SSH-" bytes).bind readNumber with
  | none => none
  | some (major, rest) =>
    match (Greeting.after? "." rest).bind readNumber with
    | none => none
    | some (minor, _) => some ⟨major, minor⟩

/-- The line by which a probe identifies itself in this version. -/
def identification (version : SshVersion) (agentName : String) : String :=
  "SSH-" ++ String.ofList (Decimal.digits version.major.val) ++ "." ++
    String.ofList (Decimal.digits version.minor.val) ++ "-" ++ agentName ++ "\r\n"

end SshVersion

namespace Greeting

/-- Secure shell: a banner with a version. -/
def ssh (buffer : List UInt8) : Verdict :=
  if (SshVersion.ofBanner? buffer).isSome then .accept else .refuse

/-- What a secure-shell server is answered, whatever the verdict. -/
def sshAnswer (agentName : String) (buffer : List UInt8) : String :=
  match SshVersion.ofBanner? buffer with
  | some version => version.identification agentName
  | none => "0\n"

end Greeting

end ServiceProbe
