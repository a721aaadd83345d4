import ServiceProbe.Check
import ServiceProbe.Proofs.Port.Tokens

/-!
# What a probe does

A probe dials the one endpoint of its target, or nothing if the port token stands for no port.
Where a connection alone answers it, it exchanges no data and says whether the dial was
accepted, and that is what a port check does on the same endpoint.
-/

namespace ServiceProbe

namespace Check

variable {α β : Type}

@[simp] theorem answer_map (f : α → β) (check : Check α) :
    (check.map f).answer = f check.answer := rfl

@[simp] theorem dials_map (f : α → β) (check : Check α) : (check.map f).dials = check.dials := rfl

@[simp] theorem sent_map (f : α → β) (check : Check α) : (check.map f).sent = check.sent := rfl

@[simp] theorem log_map (f : α → β) (check : Check α) : (check.map f).log = check.log := rfl

/-- Two checks that come to the same answer by the same dealings with the network. Each may tell
the log of them in its own words. -/
structure Agree (first second : Check α) : Prop where
  /-- They answer the same. -/
  answer : first.answer = second.answer
  /-- They dial the same endpoints in the same order. -/
  dials : first.dials = second.dials
  /-- They send the same bytes over each connection. -/
  sent : first.sent = second.sent

/-- Checks that agree still do when their answers are put in the same way. -/
theorem Agree.map {first second : Check α} (h : first.Agree second) (f : α → β) :
    (first.map f).Agree (second.map f) :=
  ⟨congrArg f h.answer, h.dials, h.sent⟩

/-- A check that exchanges no data: it sends no byte, and its log tells of no read. -/
structure Mute (check : Check α) : Prop where
  /-- Nothing is sent over any connection. -/
  unsent : ∀ bytes ∈ check.sent, bytes = []
  /-- Nothing is read. -/
  unread : ∀ protocol piece, .greetingRead protocol piece ∉ check.log

/-- How an answer is put does not matter to what is exchanged. -/
theorem Mute.map {check : Check α} (h : check.Mute) (f : α → β) : (check.map f).Mute :=
  ⟨h.unsent, h.unread⟩

end Check

/-- Networks that serve an endpoint alike are dialled alike there. -/
theorem Network.dial_eq_of_eq {first second : Network} {endpoint : Endpoint}
    (same : first endpoint = second endpoint) : first.dial endpoint = second.dial endpoint := by
  simp only [Network.dial, same]

namespace Target

/-- The endpoint that a target is dialled at, if its port token stands for a port. -/
def endpoint? (target : Target) : Option Endpoint :=
  target.port?.map fun port => ⟨target.host, port⟩

/-- The endpoint of an address and a token is the one that the token stands for there. -/
theorem endpoint?_atAddress {token : String} {port : Port}
    (resolved : Port.ofToken? token = some port) (protocol : Protocol) (address : String) :
    (Target.atAddress protocol address token).endpoint? = some ⟨hostOf address, port⟩ := by
  rw [endpoint?, port?, atAddress, resolved, Option.map_some]

/-- A probe dials the endpoint of its target, once, whatever that answers. -/
theorem dials_probe (settings : Settings) (network : Network) (target : Target) :
    (target.probe settings network).dials = target.endpoint?.toList := by
  have dials : (target.connect network).dials = target.endpoint?.toList := by
    unfold connect endpoint?
    cases target.port? with
    | none => rfl
    | some port => rfl
  rw [← dials]
  unfold probe
  dsimp only
  split
  · rfl
  · split <;> rfl

/-- A probe of a target without an endpoint finds it down. -/
theorem answer_probe_of_endpoint?_eq_none {target : Target} (unknown : target.endpoint? = none)
    (settings : Settings) (network : Network) :
    (target.probe settings network).answer = false := by
  have port : target.port? = none := Option.map_eq_none_iff.mp unknown
  simp only [probe, connect, port]

/-- Where a connection alone answers the probe, it does what the dial does and exchanges no
data. -/
theorem probe_of_connectOnly {target : Target} (plain : target.protocol.connectOnly = true)
    {endpoint : Endpoint} (known : target.endpoint? = some endpoint) (settings : Settings)
    (network : Network) :
    (target.probe settings network).answer = (network.dial endpoint).isOk ∧
      (target.probe settings network).sent =
        (if (network.dial endpoint).isOk then [[]] else []) ∧
      (target.probe settings network).Mute := by
  obtain ⟨port, hp, rfl⟩ := Option.map_eq_some_iff.mp known
  cases dialled : network.dial ⟨target.host, port⟩ with
  | error error =>
    have probed : target.probe settings network =
        { answer := false, dials := [⟨target.host, port⟩],
          log := [.cannotConnect target error] } := by
      simp only [probe, connect, hp, dialled]
    rw [probed]
    exact ⟨rfl, rfl, by simp, by simp⟩
  | ok peer =>
    have probed : target.probe settings network =
        { answer := true, dials := [⟨target.host, port⟩], sent := [[]] } := by
      simp only [probe, connect, hp, dialled, plain, if_true]
    rw [probed]
    exact ⟨rfl, rfl, by simp, by simp⟩

end Target

/-- A port check of a numeral says what its one dial does, and exchanges no data. -/
theorem portOpen_of_numeral {token : String} {port : Port}
    (numeral : Port.ofNumeral? token = some port) (network : Network) (address : String) :
    (portOpen network address token).answer =
        .ok (network.dial ⟨hostOf address, port⟩).isOk ∧
      (portOpen network address token).dials = [⟨hostOf address, port⟩] ∧
      (portOpen network address token).sent =
        (if (network.dial ⟨hostOf address, port⟩).isOk then [[]] else []) ∧
      (portOpen network address token).Mute := by
  cases dialled : network.dial ⟨hostOf address, port⟩ with
  | error error =>
    have checked : portOpen network address token =
        { answer := .ok false, dials := [⟨hostOf address, port⟩],
          log := [.portClosed ⟨hostOf address, port⟩ error] } := by
      simp only [portOpen, numeral, dialled]
    rw [checked]
    exact ⟨rfl, rfl, rfl, by simp, by simp⟩
  | ok peer =>
    have checked : portOpen network address token =
        { answer := .ok true, dials := [⟨hostOf address, port⟩], sent := [[]] } := by
      simp only [portOpen, numeral, dialled]
    rw [checked]
    exact ⟨rfl, rfl, rfl, by simp, by simp⟩

/-- A port check of a numeral agrees with every probe that asks for no more than a connection to
the same endpoint, on any network that answers the dial in the same way. -/
theorem agree_portOpen {token : String} {port : Port}
    (numeral : Port.ofNumeral? token = some port) {protocol : Protocol}
    (plain : protocol.connectOnly = true) {address : String} {first second : Network}
    (same : first ⟨hostOf address, port⟩ = second ⟨hostOf address, port⟩) (settings : Settings) :
    (portOpen first address token).Agree
      (((Target.atAddress protocol address token).probe settings second).map .ok) := by
  have known :=
    Target.endpoint?_atAddress (Port.ofToken?_of_ofNumeral? numeral) protocol address
  have dialled := Network.dial_eq_of_eq same
  obtain ⟨answerPort, dialsPort, sentPort, -⟩ := portOpen_of_numeral numeral first address
  obtain ⟨answerProbe, sentProbe, -⟩ :=
    Target.probe_of_connectOnly plain known settings second
  have dialsProbe := Target.dials_probe settings second (.atAddress protocol address token)
  rw [known, Option.toList_some] at dialsProbe
  constructor
  · rw [answerPort, Check.answer_map, answerProbe, dialled]
  · rw [dialsPort, Check.dials_map, dialsProbe]
  · rw [sentPort, Check.sent_map, sentProbe, dialled]

end ServiceProbe
