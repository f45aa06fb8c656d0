import HostFleet.Gossip.Membership
import HostFleet.Network
import HostFleet.Settings

/-! # The controller

How the parts of a controller are put together.

* `Controller.registerSelf`: its own endpoints, which stay.
* `Controller.announcements`: the heartbeats by which other controllers learn of it.
* `Controller.listen`: the sockets it takes, in order, or why it cannot start.
-/

set_option autoImplicit false

namespace HostFleet.Controller

/-- The registry of a new controller. -/
def newRegistry (s : Settings) : Registry := .empty s.cascadeOnEviction

/-- An endpoint of the controller itself. -/
def ownEndpoint (s : Settings) (hostname : String) (now : Moment) (address : String)
    (role : Role) : Endpoint :=
  ⟨address, hostname, role, s.status, now, .local⟩

/-- Adds the endpoints for reports and for clients. -/
def registerSelf (r : Registry) (s : Settings) (hostname : String) (now : Moment) : Registry :=
  (r.addEndpoint (ownEndpoint s hostname now s.internalAddr .controllerInternal)).addEndpoint
    (ownEndpoint s hostname now s.proxyAddr .controllerProxy)

/-- What is announced on every tick. -/
def announcements (s : Settings) (hostname : String) : List (GossipCommand × Heartbeat) :=
  [(.controllerProxy, ⟨s.proxyAddr, hostname, s.status⟩),
    (.controllerInternal, ⟨s.internalAddr, hostname, s.status⟩)]

/-! ## Listening -/

/-- Where a running controller takes connections. -/
structure Listeners where
  group : SocketAddress
  report : SocketAddress
  proxy : SocketAddress
  monitor : SocketAddress
  deriving DecidableEq, Repr

variable {σ : Type}

/-- Joins the group of the heartbeats. -/
def joinGroup (sockets : Sockets σ) (m : σ) (s : Settings) : Except Fault (σ × SocketAddress) :=
  match s.group? with
  | none => .error (.invalidAddress ("invalid multicast address " ++ s.multicastAddr))
  | some group => do
    let m ← (sockets.take m group.port).mapError .io
    let m ← (sockets.join m group).mapError fun reason =>
      .invalidAddress ("cannot join multicast group " ++ group.render ++ ": " ++ reason)
    return (m, group)

/-- Binds the socket part of an address. -/
def bindAddress (sockets : Sockets σ) (m : σ) (address : String) :
    Except Fault (σ × SocketAddress) := do
  let (_, socket) ← Address.split? address
  (sockets.bind m socket).mapError .io

/-- Takes the sockets: the group, and those for reports, clients and the monitor. -/
def listen (sockets : Sockets σ) (m : σ) (s : Settings) : Except Fault Listeners := do
  let (m, group) ← joinGroup sockets m s
  let (m, report) ← bindAddress sockets m s.internalAddr
  let (m, proxy) ← bindAddress sockets m s.proxyAddr
  let (_, monitor) ← bindAddress sockets m s.monitorAddr
  return ⟨group, report, proxy, monitor⟩

end HostFleet.Controller
