import ServiceProbe.ItemKey.Printer
import ServiceProbe.Network
import ServiceProbe.Target
import ServiceProbe.Text.Utf8

/-!
# Notices

What a check tells its log. A notice is a fact; its level, the part of the program that it comes
from, its text and its named values are functions of it. Notices are the only place where the
reason of a negative answer shows.
-/

namespace ServiceProbe

/-- How much a notice matters, from the most to the least. -/
inductive Level where
  /-- A failure of the program. -/
  | error
  /-- Something that looks wrong. -/
  | warn
  /-- News of general interest. -/
  | info
  /-- The reason of an answer. -/
  | debug
  /-- The course of a check. -/
  | trace
  deriving DecidableEq

/-- What can be reported about a check. -/
inductive Notice where
  /-- A read got part of a greeting. -/
  | greetingRead (protocol : Protocol) (piece : List UInt8)
  /-- The peer closed the connection before its greeting was judged. -/
  | closedByPeer
  /-- A read failed. -/
  | cannotRead (error : IoError)
  /-- The greeting was not complete at the deadline. -/
  | deadlineExceeded
  /-- What was read is not the greeting of the protocol. -/
  | contentRefused (piece : List UInt8)
  /-- The goodbye was not sent whole. -/
  | goodbyeNotSent (error : IoError)
  /-- The answer to a secure-shell server was not sent whole. -/
  | identificationNotSent (error : IoError)
  /-- A probe got no connection. -/
  | cannotConnect (target : Target) (error : DialError)
  /-- A probe got a connection and no greeting that it accepts. -/
  | noGreeting (target : Target)
  /-- A port check got no connection. -/
  | portClosed (endpoint : Endpoint) (error : DialError)
  /-- An item key is about to be evaluated. -/
  | evaluating (key : ItemKey) (family : String)
  deriving DecidableEq

namespace Notice

/-- How much a notice matters. -/
def level : Notice → Level
  | greetingRead .. => .trace
  | _ => .debug

/-- The part of the program that a notice comes from. -/
def source : Notice → String
  | identificationNotSent _ => "svcprobe_protocols::ssh"
  | portClosed .. => "svcprobe_core::network::tcp"
  | evaluating .. => "svcprobe::commands::check"
  | _ => "svcprobe_core::probe"

/-- The text of a notice. Received bytes are shown as text, with replacements where they are
none. -/
def message : Notice → String
  | greetingRead _ piece => s!"greeting: {Quoted.text (Utf8.decodeLossy piece)}"
  | closedByPeer => "TCP expect network error: connection closed by peer"
  | cannotRead error => s!"TCP expect network error: cannot read: {error.message}"
  | deadlineExceeded => "TCP expect network error: read deadline exceeded"
  | contentRefused piece => s!"TCP expect content error, received [{Utf8.decodeLossy piece}]"
  | goodbyeNotSent error => s!"TCP expect: cannot send goodbye: {error.message}"
  | identificationNotSent error =>
    s!"SSH check error: cannot send identification: {error.message}"
  | cannotConnect target error =>
    s!"TCP expect network error: cannot connect to [{target.text}]: {error.message}"
  | noGreeting target =>
    s!"TCP expect: no valid {target.protocol.tag} greeting from [{target.text}]"
  | portClosed endpoint error =>
    s!"TCP port check: cannot connect to [{endpoint.host}]:{endpoint.port.val}: {error.message}"
  | evaluating key family => s!"evaluating {key.text} on {family} exporter"

/-- The named values of a notice. -/
def fields : Notice → List (String × String)
  | greetingRead protocol piece =>
    [("protocol", protocol.tag), ("received", toString piece.length)]
  | _ => []

end Notice

end ServiceProbe
