import ServiceProbe.Proofs.Metric.Targets

/-!
# Two ways to ask for a plain connection

The port check and the service check of a protocol that only asks for a connection come to the
same dial by different ways: one reads its token as a numeral and takes the loopback for an
empty address itself, the other resolves a target first and takes names for tokens too. On
numerals they agree, and on every other token only the service check has an answer.
-/

namespace ServiceProbe

namespace Monitor

/-- The port check of an address and a port token. -/
def portAt (monitor : Monitor) (address token : String) : Check (Except ParamError Reading) :=
  monitor.evaluate "net.tcp.port" [address, token]

/-- The service check of a protocol tag, an address and a port token. -/
def serviceAt (monitor : Monitor) (tag address token : String) :
    Check (Except ParamError Reading) :=
  monitor.evaluate "net.tcp.service" [tag, address, token]

/-- The port check asks whether the port is open. -/
theorem portAt_eq (monitor : Monitor) (address token : String) :
    monitor.portAt address token =
      (portOpen monitor.network address token).map (·.map .ofBool) :=
  monitor.evaluate_eq_read (Metric.ofName?_name .port) [address, token]

/-- The service check of a token that is not empty probes the target that it describes. -/
theorem serviceAt_eq (monitor : Monitor) (protocol : Protocol) (address : String)
    {token : String} (filled : token ≠ "") :
    monitor.serviceAt protocol.tag address token =
      ((Target.atAddress protocol address token).probe monitor.settings monitor.network).map
        fun up => .ok (.ofBool up) := by
  have named := monitor.evaluate_eq_read (Metric.ofName?_name .service)
    [protocol.tag, address, token]
  rw [read, checkService_of_described (Target.ofParams_of_token protocol address filled)] at named
  exact named

/-- A service check of a token that stands for a port dials it and reads whether that was accepted,
if the protocol only asks for a connection. -/
theorem serviceAt_of_port (monitor : Monitor) {protocol : Protocol}
    (plain : protocol.connectOnly = true) (address : String) {token : String} {port : Port}
    (filled : token ≠ "") (resolved : Port.ofToken? token = some port) :
    (monitor.serviceAt protocol.tag address token).answer =
        .ok (.ofBool (monitor.network.dial ⟨hostOf address, port⟩).isOk) ∧
      (monitor.serviceAt protocol.tag address token).dials = [⟨hostOf address, port⟩] ∧
      (monitor.serviceAt protocol.tag address token).Mute := by
  have known := Target.endpoint?_atAddress resolved protocol address
  obtain ⟨answer, -, mute⟩ :=
    Target.probe_of_connectOnly plain known monitor.settings monitor.network
  rw [serviceAt_eq _ _ _ filled]
  refine ⟨?_, ?_, mute.map _⟩
  · rw [Check.answer_map, answer]
  · rw [Check.dials_map, Target.dials_probe, known, Option.toList_some]

/-- A service check of a token that stands for no port dials nothing and reads zero. -/
theorem serviceAt_of_no_port (monitor : Monitor) (protocol : Protocol) (address : String)
    {token : String} (filled : token ≠ "") (unresolved : Port.ofToken? token = none) :
    (monitor.serviceAt protocol.tag address token).answer = .ok (.count 0) ∧
      (monitor.serviceAt protocol.tag address token).dials = [] := by
  have unknown : (Target.atAddress protocol address token).endpoint? = none :=
    Option.map_eq_none_iff.mpr unresolved
  rw [serviceAt_eq _ _ _ filled]
  constructor
  · rw [Check.answer_map, Target.answer_probe_of_endpoint?_eq_none unknown]
    rfl
  · rw [Check.dials_map, Target.dials_probe, unknown, Option.toList_none]

/-- What a port check and a service check for a plain connection have in common on an address and
a port token, each with a monitor of its own. -/
structure SharesConnection (first second : Monitor) (tag address token : String) : Prop where
  /-- On a numeral both dial the same endpoint, once, and exchange no data. If the network answers
  both dials alike they read the same number. -/
  numeral : ∀ port, Port.ofNumeral? token = some port →
    (first.portAt address token).dials = [⟨hostOf address, port⟩] ∧
      (second.serviceAt tag address token).dials = [⟨hostOf address, port⟩] ∧
      (first.portAt address token).Mute ∧ (second.serviceAt tag address token).Mute ∧
      (first.network ⟨hostOf address, port⟩ = second.network ⟨hostOf address, port⟩ →
        ∃ up, (first.portAt address token).answer = .ok (.ofBool up) ∧
          (second.serviceAt tag address token).answer = .ok (.ofBool up))
  /-- Any other token is refused by the port check. -/
  refused : Port.ofNumeral? token = none →
    (first.portAt address token).answer = .error .invalidSecond
  /-- The name of a well-known service, in whatever case, makes the service check dial the port of
  the table and read whether that was accepted. -/
  named : Port.ofNumeral? token = none → token ≠ "" →
    ∀ name port, (name, port) ∈ Port.wellKnown → Port.SameButCase name token →
      (second.serviceAt tag address token).dials = [⟨hostOf address, port⟩] ∧
        ∃ up, (second.serviceAt tag address token).answer = .ok (.ofBool up)
  /-- A token that is nothing else makes it read zero, and nothing is dialled. -/
  unnamed : Port.ofNumeral? token = none → token ≠ "" →
    (∀ entry ∈ Port.wellKnown, ¬ Port.SameButCase entry.1 token) →
      (second.serviceAt tag address token).dials = [] ∧
        (second.serviceAt tag address token).answer = .ok (.count 0)

/-- A port check shares its connection with every service check for a plain connection. -/
theorem sharesConnection_of_connectOnly (first second : Monitor) {protocol : Protocol}
    (plain : protocol.connectOnly = true) (address token : String) :
    first.SharesConnection second protocol.tag address token where
  numeral := by
    intro port numeral
    have filled := Port.ne_empty_of_ofNumeral? numeral
    have resolved := Port.ofToken?_of_ofNumeral? numeral
    obtain ⟨answerPort, dialsPort, -, mutePort⟩ :=
      portOpen_of_numeral numeral first.network address
    obtain ⟨answerService, dialsService, muteService⟩ :=
      second.serviceAt_of_port plain address filled resolved
    rw [portAt_eq]
    refine ⟨dialsPort, dialsService, mutePort.map _, muteService, ?_⟩
    intro same
    refine ⟨_, ?_, answerService⟩
    rw [Check.answer_map, answerPort, Network.dial_eq_of_eq same]
    rfl
  refused := by
    intro unread
    have refused : portOpen first.network address token = { answer := .error .invalidSecond } := by
      simp only [portOpen, unread]
    rw [portAt_eq, refused]
    rfl
  named := by
    intro _ filled name port listed same
    have resolved : Port.ofToken? token = some port :=
      Port.ofToken?_eq_some_iff.mpr (.inr ⟨name, listed, same⟩)
    obtain ⟨answer, dials, -⟩ := second.serviceAt_of_port plain address filled resolved
    exact ⟨dials, _, answer⟩
  unnamed := by
    intro unread filled unlisted
    have unresolved : Port.ofToken? token = none := by
      rw [Port.ofToken?_of_ofNumeral?_eq_none unread]
      refine Option.eq_none_iff_forall_ne_some.mpr ?_
      intro port found
      obtain ⟨name, listed, same⟩ := Port.ofService?_eq_some_iff_sameButCase.mp found
      exact unlisted _ listed same
    obtain ⟨answer, dials⟩ := second.serviceAt_of_no_port protocol address filled unresolved
    exact ⟨dials, answer⟩

/-- The port check shares its connection with the service checks of `tcp` and `http`. -/
theorem sharesConnection (first second : Monitor) {tag : String}
    (plain : tag = "tcp" ∨ tag = "http") (address token : String) :
    first.SharesConnection second tag address token := by
  have tcp : first.SharesConnection second Protocol.tcp.tag address token :=
    first.sharesConnection_of_connectOnly second rfl address token
  have http : first.SharesConnection second Protocol.http.tag address token :=
    first.sharesConnection_of_connectOnly second rfl address token
  rcases plain with rfl | rfl
  · exact tcp
  · exact http

/-- A monitor of a host on which only the web port accepts connections. -/
def webMonitor : Monitor :=
  { settings := .standard
    network := fun endpoint =>
      if endpoint = ⟨loopback, ⟨80, by decide⟩⟩ then .ok ⟨[], .silent, {}⟩ else .error (.system 111)
    elapsed := ⟨0, 0⟩ }

/-- Both checks dial the web port for a numeral with leading zeros, and only the service check does
for a name in capitals. -/
theorem webMonitor_sharesConnection :
    ("http" = "tcp" ∨ "http" = "http") ∧
      (webMonitor.portAt "" "0080").dials = [⟨"127.0.0.1", 80⟩] ∧
      (webMonitor.serviceAt "http" "" "0080").dials = [⟨"127.0.0.1", 80⟩] ∧
      (webMonitor.portAt "" "HTTP").answer = .error .invalidSecond ∧
      (webMonitor.serviceAt "http" "" "HTTP").dials = [⟨"127.0.0.1", 80⟩] := by
  have plain : "http" = "tcp" ∨ "http" = "http" := .inr rfl
  have numeral := (webMonitor.sharesConnection webMonitor plain "" "0080").numeral 80 (by decide)
  have name := webMonitor.sharesConnection webMonitor plain "" "HTTP"
  have unread : Port.ofNumeral? "HTTP" = none := by decide
  have capitals : Port.SameButCase "http" "HTTP" := Port.foldCase_eq_iff.mp (by decide)
  have named := name.named unread (by decide) "http" 80 (by decide) capitals
  exact ⟨plain, numeral.1, numeral.2.1, name.refused unread, named.1⟩

end Monitor

end ServiceProbe
