/-!
# Connection errors

Why making, reading or writing a connection failed. The errors of the operating system carry
its number and have its usual text.
-/

namespace ServiceProbe

/-- Why an operation on a connection failed. -/
inductive IoError where
  /-- The peer no longer reads. -/
  | brokenPipe
  /-- The peer reset the connection. -/
  | connectionReset
  /-- The system gave up waiting. -/
  | timedOut
  /-- A signal interrupted the operation. -/
  | interrupted
  /-- The operation cannot proceed now. -/
  | wouldBlock
  /-- A write took nothing. -/
  | writeZero
  /-- The host has no address. -/
  | unresolved (reason : String)
  /-- An error of the operating system. -/
  | system (code : Nat)
  deriving DecidableEq

namespace IoError

/-- The texts of the operating system's errors that networks give rise to. -/
def systemTexts : List (Nat × String) :=
  [(13, "Permission denied"), (22, "Invalid argument"), (32, "Broken pipe"),
    (97, "Address family not supported by protocol"), (99, "Cannot assign requested address"),
    (100, "Network is down"), (101, "Network is unreachable"),
    (103, "Software caused connection abort"), (104, "Connection reset by peer"),
    (107, "Transport endpoint is not connected"), (110, "Connection timed out"),
    (111, "Connection refused"), (112, "Host is down"), (113, "No route to host")]

/-- The text of an error of the operating system. -/
def systemText (code : Nat) : String := (systemTexts.lookup code).getD s!"Unknown error {code}"

/-- The text of a connection error. -/
def message : IoError → String
  | brokenPipe => "broken pipe"
  | connectionReset => "connection reset"
  | timedOut => "timed out"
  | interrupted => "operation interrupted"
  | wouldBlock => "operation would block"
  | writeZero => "write zero"
  | unresolved reason => s!"failed to lookup address information: {reason}"
  | system code => s!"{systemText code} (os error {code})"

end IoError

end ServiceProbe
