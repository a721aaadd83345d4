import ServiceProbe.Peer
import ServiceProbe.Port
import ServiceProbe.Text.Quoted

/-!
# Dialling

A network says what an endpoint answers when it is dialled: an error, or a connection to a peer
whose further behaviour is known. A host that holds a NUL is no name the system can look up, so
it fails on every network.
-/

namespace ServiceProbe

/-- What is dialled. -/
structure Endpoint where
  /-- The host: a name or an IP address. -/
  host : String
  /-- The port number. -/
  port : Port
  deriving DecidableEq

/-- Why there is no connection. -/
inductive DialError where
  /-- The port token stands for no port, so nothing was dialled. -/
  | unknownPort (token : String)
  /-- The host holds a NUL. -/
  | nulInHost
  /-- The system reported an error. -/
  | failed (error : IoError)
  deriving DecidableEq

/-- The text of a dialling error. -/
def DialError.message : DialError → String
  | unknownPort token => s!"unknown port {Quoted.text token}"
  | nulInHost => "file name contained an unexpected NUL byte"
  | failed error => error.message

/-- What each endpoint answers when it is dialled. -/
def Network := Endpoint → Except IoError Peer

/-- Dial an endpoint. -/
def Network.dial (network : Network) (endpoint : Endpoint) : Except DialError Peer :=
  if endpoint.host.toList.contains '\x00' then .error .nulInHost
  else (network endpoint).mapError .failed

end ServiceProbe
