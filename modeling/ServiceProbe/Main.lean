import ServiceProbe.Program
import Std.Async.DNS
import Std.Async.TCP
import Std.Async.Timer

/-!
# The executable

The outer layer: it dials, reads and writes, records what the network did, and hands the record
to the program, which decides everything. A check tells by its dials what has to be dialled,
and by its log, evaluated on what was recorded so far, whether it still waits for something.
-/

namespace ServiceProbe.Main

open Std.Async

/-- The number and the description of an error, where it has them. -/
def details (error : IO.Error) : Nat × String :=
  match error with
  | .alreadyExists _ code text | .otherError code text | .resourceBusy code text
  | .resourceVanished code text | .unsupportedOperation code text | .hardwareFault code text
  | .unsatisfiedConstraints code text | .illegalOperation code text | .protocolError code text
  | .timeExpired code text | .interrupted _ code text | .noFileOrDirectory _ code text
  | .invalidArgument _ code text | .permissionDenied _ code text
  | .resourceExhausted _ code text | .inappropriateType _ code text
  | .noSuchThing _ code text => (code.toNat, text)
  | .unexpectedEof => (0, "unexpected end of file")
  | .userError text => (0, text)

/-- The connection error behind an error. The event loop negates the numbers of the system and
keeps those beyond 3000 for name look-up. -/
def connectionError (error : IO.Error) : IoError :=
  let (code, text) := details error
  let number := if code < UInt32.size / 2 then code else UInt32.size - code
  if 3000 ≤ number then .unresolved text else .system number

/-- The outcome of an action that may fail. -/
def attempt {α : Type} (action : Async α) : IO (Except IoError α) := do
  match ← action.block.toBaseIO with
  | .ok value => return .ok value
  | .error error => return .error (connectionError error)

/-- The addresses of a host. -/
def addresses (host : String) : Async (Array Std.Net.IPAddr) :=
  match Std.Net.IPv4Addr.ofString host, Std.Net.IPv6Addr.ofString host with
  | some address, _ => return #[.v4 address]
  | none, some address => return #[.v6 address]
  | none, none => DNS.getAddrInfo host ""

/-- A connection to an address. -/
def connectTo (address : Std.Net.IPAddr) (port : Port) : Async TCP.Socket.Client := do
  let client ← TCP.Socket.Client.mk
  let number := UInt16.ofNat port.val
  client.connect (match address with
    | .v4 ip => .v4 ⟨ip, number⟩
    | .v6 ip => .v6 ⟨ip, number⟩)
  return client

/-- A connection to the first address of a host that accepts one. -/
def dial (endpoint : Endpoint) : IO (Except IoError TCP.Socket.Client) := do
  match ← attempt (addresses endpoint.host) with
  | .error error => return .error error
  | .ok found =>
    let mut last : IoError := .unresolved "no address found"
    for address in found do
      match ← attempt (connectTo address endpoint.port) with
      | .ok client => return .ok client
      | .error error => last := error
    return .error last

/-- What one read brings within so many milliseconds, if anything. -/
def readWithin (client : TCP.Socket.Client) (millis : Nat) : IO (Option (Option Delivery)) := do
  let read : Async (Option (Option Delivery)) := do
    let timer ← Selector.sleep (Std.Time.Millisecond.Offset.ofNat millis)
    Selectable.one #[
      .case (client.recvSelector (UInt64.ofNat Greeting.bufferSize)) fun bytes =>
        return some (bytes.map fun got => .data got.toList),
      .case timer fun _ => return none]
  match ← attempt read with
  | .ok outcome => return outcome
  | .error error => return some (some (.failure error))

/-- Milliseconds since a moment of the monotonic clock. -/
def millisSince (start : Nat) : IO Nat := return ((← IO.monoNanosNow) - start) / 1000000

/-- Read until the check that `evaluate` stands for no longer waits. -/
partial def listen {α : Type} (evaluate : Network → Check α) (client : TCP.Socket.Client)
    (start deadline : Nat) (arrivals : List Arrival) : IO Peer := do
  let peer : Peer := ⟨arrivals, .silent, {}⟩
  if (evaluate fun _ => .ok peer).log.contains .deadlineExceeded then
    match ← readWithin client (deadline - (← millisSince start)) with
    | none => return peer
    | some none => return { peer with tail := .closed }
    | some (some delivery) =>
      let due := min (← millisSince start) deadline
      listen evaluate client start deadline (arrivals ++ [⟨due, delivery⟩])
  else return peer

/-- What the network answers to a check, recorded while the check is carried out. -/
def record {α : Type} (settings : Settings) (evaluate : Network → Check α) : IO Network := do
  let unknown : IoError := .unresolved "not dialled"
  let some endpoint := (evaluate fun _ => .error unknown).dials.head?
    | return fun _ => .error unknown
  if endpoint.host.toList.contains '\x00' then return fun _ => .error unknown
  match ← dial endpoint with
  | .error error => return fun _ => .error error
  | .ok client =>
    let peer ← listen evaluate client (← IO.monoNanosNow) settings.timeoutMillis []
    let message := (evaluate fun _ => .ok peer).sent.flatten
    if message.isEmpty then return fun _ => .ok peer
    match ← attempt (client.send ⟨message.toArray⟩) with
    | .ok () => return fun _ => .ok peer
    | .error error => return fun _ => .ok { peer with intake := { capacity := some 0, error } }

/-- Carry out the check at a place: what the network answered and how long it took. -/
def observe {α : Type} (settings : Settings) (evaluate : Monitor → Check α) :
    IO (Network × Duration) := do
  let start ← IO.monoNanosNow
  let network ← record settings fun network => evaluate ⟨settings, network, ⟨0, 0⟩⟩
  let nanos := (← IO.monoNanosNow) - start
  return (network, ⟨nanos / Nat.pow 10 9, nanos % Nat.pow 10 9⟩)

/-- Carry out all checks of an invocation at the same time. -/
def observeAll (settings : Settings) (command : Command) : IO (List (Network × Duration)) := do
  match command with
  | .metrics => return []
  | .single metric params =>
    return [← observe settings fun monitor => monitor.evaluate metric.name params]
  | .get keys =>
    let tasks ← keys.mapM fun key =>
      IO.asTask (observe settings fun monitor => monitor.evaluateKey key)
    tasks.mapM fun task => IO.ofExcept task.get

/-- Whether a stream is to be coloured, by the customary variables. -/
def wantsColour (stream : IO.FS.Stream) : IO Bool := do
  if (← IO.getEnv "CLICOLOR_FORCE").any (· != "0") then return true
  if (← IO.getEnv "NO_COLOR").isSome then return false
  if (← IO.getEnv "CLICOLOR") == some "0" then return false
  stream.isTty

/-- What the network answers to the invocation of a command line, if there is one. -/
def surroundings (words : List String) : IO (List (Network × Duration)) :=
  match CommandLine.parse words with
  | .error _ => return []
  | .ok invocation =>
    match Settings.checked invocation.timeout invocation.agentName with
    | .error _ => return []
    | .ok settings => observeAll settings invocation.command

end ServiceProbe.Main

open ServiceProbe in
/-- The program on the real network. -/
def main (words : List String) : IO UInt32 := do
  let out ← IO.getStdout
  let err ← IO.getStderr
  let observed ← Main.surroundings words
  let environment : Environment :=
    { colour := ← Main.wantsColour out
      logFilter := ← IO.getEnv "RUST_LOG"
      network := fun place =>
        (observed[place]?.map (·.1)).getD fun _ => .error (.unresolved "not dialled")
      elapsed := fun place => (observed[place]?.map (·.2)).getD ⟨0, 0⟩ }
  let output := Program.run environment words
  err.putStr output.err
  out.putStr output.out
  return UInt32.ofNat output.exitCode
