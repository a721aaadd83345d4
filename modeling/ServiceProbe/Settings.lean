/-!
# Settings

What is configured once for all checks: how long a service has for its greeting, and the name
by which a probe identifies itself to secure-shell servers. The name has to be a single token
of that identification, so it is printable ASCII without spaces and hyphens.
-/

namespace ServiceProbe

/-- The configuration of the checks. -/
structure Settings where
  /-- Seconds from the start of reading to the deadline of a greeting. -/
  timeout : Nat
  /-- The software name in the identification sent to secure-shell servers. -/
  agentName : String
  deriving DecidableEq

/-- Why settings were refused. -/
inductive SettingsError where
  /-- The timeout is outside the range allowed. -/
  | timeoutOutOfRange (got : Nat)
  /-- The agent name is no token. -/
  | invalidAgentName
  deriving DecidableEq

namespace Settings

/-- The shortest timeout, in seconds. -/
def minTimeout : Nat := 1

/-- The longest timeout, in seconds. -/
def maxTimeout : Nat := 30

/-- The settings used where none are given. -/
def standard : Settings := ⟨3, "svcprobe_agent"⟩

/-- Whether a character may stand in an agent name. -/
def isNameChar (c : Char) : Bool := 0x21 ≤ c.toNat && c.toNat ≤ 0x7E && c != '-'

/-- Whether an agent name is a token. -/
def isToken (name : String) : Bool := !name.isEmpty && name.toList.all isNameChar

/-- Settings with a timeout and an agent name. The timeout is judged first. -/
def checked (timeout : Nat) (agentName : String) : Except SettingsError Settings :=
  if timeout < minTimeout ∨ maxTimeout < timeout then .error (.timeoutOutOfRange timeout)
  else if isToken agentName then .ok ⟨timeout, agentName⟩
  else .error .invalidAgentName

/-- The timeout in milliseconds. -/
def timeoutMillis (settings : Settings) : Nat := settings.timeout * 1000

end Settings

/-- The text of a settings error. -/
def SettingsError.message : SettingsError → String
  | timeoutOutOfRange got =>
    s!"timeout must be between {Settings.minTimeout} and {Settings.maxTimeout} seconds, got {got}"
  | invalidAgentName => "agent name must be a non-empty printable token without spaces or '-'"

end ServiceProbe
