import ServiceProbe.ParamError
import ServiceProbe.Port
import ServiceProbe.Protocol

/-!
# Probe targets

A target says which protocol is expected, which host is dialled and on which port token. The
parameters of a service check, a protocol followed by an optional address and an optional port,
are resolved to a target before anything is dialled.
-/

namespace ServiceProbe

/-- The host that an empty address stands for. -/
def loopback : String := "127.0.0.1"

/-- The host that an address names. -/
def hostOf (address : String) : String := if address.isEmpty then loopback else address

/-- What one probe checks. -/
structure Target where
  /-- The protocol that the service is expected to speak. -/
  protocol : Protocol
  /-- The host to dial: a name or an IP address. -/
  host : String
  /-- The port token; what it stands for is decided when the target is dialled. -/
  port : String
  deriving DecidableEq

namespace Target

/-- The target at an address, which may be left empty. -/
def atAddress (protocol : Protocol) (address port : String) : Target :=
  ⟨protocol, hostOf address, port⟩

/-- The number of the port to dial, if the token stands for one. -/
def port? (target : Target) : Option Port := Port.ofToken? target.port

/-- Host and port token. A host with a colon in it is put in brackets. -/
def text (target : Target) : String :=
  if target.host.toList.contains ':' then s!"[{target.host}]:{target.port}"
  else s!"{target.host}:{target.port}"

/-- The most parameters that a service check takes. -/
def maxParams : Nat := 3

/-- The port on which mailboxes are probed by default. -/
def popPort : Port := ⟨110, by decide⟩

/-- The port token of a protocol when none is given: its own name, except that mailbox access
is pinned to its number. Plain connections have no port of their own. -/
def defaultPort? : Protocol → Option String
  | .tcp => none
  | .pop => some (toString popPort.val)
  | protocol => some protocol.tag

/-- The parameter at a position, unless it is missing or empty. -/
def given? (params : List String) (index : Nat) : Option String :=
  params[index]?.filter fun param => !param.isEmpty

/-- The target that the parameters of a service check describe. -/
def ofParams (params : List String) : Except ParamError Target :=
  if maxParams < params.length then .error .tooMany
  else match (given? params 0).bind Protocol.ofTag? with
    | none => .error .invalidFirst
    | some protocol => match (given? params 2).or (defaultPort? protocol) with
      | none => .error .invalidThird
      | some port => .ok (atAddress protocol (params[1]?.getD "") port)

end Target

end ServiceProbe
