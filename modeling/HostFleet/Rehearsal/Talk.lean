import HostFleet.Controller
import HostFleet.Engine.Client
import HostFleet.Monitor
import HostFleet.Proxy.Service
import HostFleet.Rehearsal.Hosts
import HostFleet.Report.Connection

/-! # Talking to a controller

Connections to the listeners of a controller, each written to at once and then read to its end.

* `Stage`: the registry and the scripted hosts behind it.
* `Stage.askProxy`, `Stage.askMonitor`, `Stage.report`: one connection to each listener.
* `Stage.run`: a controller from its start to its end, with all that is said to it.
-/

set_option autoImplicit false

namespace HostFleet.Rehearsal

open Http (Flaw Headers Inbound Response)

/-- What a client hears. -/
inductive Heard where
  | refused
  /-- The connection was kept open and not read. -/
  | held
  | bytes (received : Bytes)
  /-- The head of an answer, and the bytes behind it. -/
  | answer (status : String) (headers : Headers) (received : Bytes)
  /-- The head of an answer, and chunks behind it. -/
  | chunks (status : String) (headers : Headers) (received : Bytes)
  deriving Repr

/-- A controller's registry and the hosts that it can reach. -/
structure Stage where
  registry : Registry
  scene : Scene

/-- One connection: to where, what is written, and is it kept open? -/
structure Talk where
  target : SocketAddress
  bytes : Bytes
  holds : Bool
  deriving Repr

namespace Stage

/-! ## Requests -/

/-- An answer as it is heard. -/
def heard (inbound : Inbound) (response : Response) (tunnelled : Bytes) : Heard :=
  let status := Inbound.statusLine inbound.request.version response
  let headers := Inbound.answerHeaders inbound response
  let received := Inbound.writtenBody inbound.request response ++ tunnelled
  if Inbound.isChunked inbound.request response then .chunks status headers received
  else .answer status headers received

/-- The answer to what is no request. -/
def heardRefusal (flaw : Flaw) : Heard :=
  let response := Inbound.refusal flaw
  .answer (Inbound.statusLine .http11 response) response.headers []

/-- Makes the container of an accepted request on its host. -/
def provision (s : Stage) (order : Option Provision) : Stage :=
  match order with
  | none => s
  | some p =>
    let outcome := p.run (Engine.overHttp hosts) ⟨s.scene, ""⟩ s.registry
    { s with scene := outcome.state.hosts }

/-- Serves one request; the connection may go on with the bytes behind it. -/
def serveOne (s : Stage) (setup : Proxy.Setup) (inbound : Inbound) : Stage × Proxy.Delivery :=
  let served := Proxy.serve setup hosts s.scene s.registry inbound.request inbound.rest
  ((Stage.mk served.registry served.state).provision served.order, served.delivery)

/-- Serves what was found and at most `limit` requests behind it. -/
def serveRest (setup : Proxy.Setup) : Nat → Stage → Inbound.Found → Stage
  | limit + 1, s, .request inbound =>
    let (s, delivery) := s.serveOne setup inbound
    if inbound.goesOn delivery.read delivery.response then
      serveRest setup limit s (Inbound.next inbound.rest)
    else s
  | _, s, _ => s

/-- Sends bytes to the proxy; the first answer is what is heard. -/
def askProxy (s : Stage) (setup : Proxy.Setup) (bytes : Bytes) : Stage × Heard :=
  match Inbound.first bytes with
  | .incomplete | .foreign => (s, .bytes [])
  | .refused flaw => (s, heardRefusal flaw)
  | .request inbound =>
    let (s, delivery) := s.serveOne setup inbound
    let heard := heard inbound delivery.response delivery.tunnelled
    if inbound.goesOn delivery.read delivery.response then
      (serveRest setup inbound.rest.length s (Inbound.next inbound.rest), heard)
    else (s, heard)

/-- Sends bytes to the monitor; the first answer is what is heard. -/
def askMonitor (s : Stage) (bytes : Bytes) : Heard :=
  match Inbound.first bytes with
  | .incomplete | .foreign => .bytes []
  | .refused flaw => heardRefusal flaw
  | .request inbound => heard inbound (Monitor.answer s.registry inbound.request) []

/-- Sends bytes to the reports' listener. -/
def report (s : Stage) (peer : Ip) (bytes : Bytes) : Stage × Heard :=
  let (registry, acks) := Report.serve s.registry (some peer) bytes
  ({ s with registry }, .bytes (acks.map Report.ackByte))

/-! ## A whole run -/

/-- The address from which this machine connects to itself. -/
def localPeer : Ip := .v4 127 0 0 1

/-- One connection to a running controller. -/
def talk (s : Stage) (setup : Proxy.Setup) (listeners : Controller.Listeners) (t : Talk) :
    Stage × Heard :=
  let (s, heard) :=
    if Network.reaches t.target listeners.report then s.report localPeer t.bytes
    else if Network.reaches t.target listeners.proxy then s.askProxy setup t.bytes
    else if Network.reaches t.target listeners.monitor then (s, s.askMonitor t.bytes)
    else (s, .refused)
  match heard, t.holds with
  | .refused, _ => (s, .refused)
  | _, true => (s, .held)
  | heard, false => (s, heard)

/-- Connections one after another. -/
def talkAll (s : Stage) (setup : Proxy.Setup) (listeners : Controller.Listeners) :
    List Talk → Stage × List Heard
  | [] => (s, [])
  | t :: ts =>
    let (s, heard) := s.talk setup listeners t
    let (s, more) := talkAll s setup listeners ts
    (s, heard :: more)

/-- What is done to a controller while it runs. -/
structure Script where
  now : Moment
  /-- The name of the machine. -/
  machine : String
  setup : Proxy.Setup
  datagrams : List Bytes
  talks : List Talk

/-- Runs a controller until all is said, then stops it. Without listeners every connection is refused,
and its own endpoints are registered all the same. -/
def run (s : Stage) (settings : Settings) (script : Script) :
    Stage × Except Fault Unit × List Heard :=
  let registry := Controller.registerSelf s.registry settings
    (settings.announcedName script.machine) script.now
  match Controller.listen Network.sockets s.scene.network settings with
  | .error fault => ({ s with registry }, .error fault, script.talks.map fun _ => .refused)
  | .ok listeners =>
    let registry := Gossip.receiveAll registry script.datagrams script.now
    let (s, heard) := talkAll { s with registry } script.setup listeners script.talks
    (s, .ok (), heard)

end Stage

end HostFleet.Rehearsal
