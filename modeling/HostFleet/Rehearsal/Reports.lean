import HostFleet.Network
import HostFleet.Report.Connection

/-! # Reporting over a network

* `reportTo`: a client that looks for a report listener at an address and sends payloads to it.
-/

set_option autoImplicit false

namespace HostFleet.Rehearsal

/-- Does the address lead to the listener? -/
def findListener (n : Network) (listener : SocketAddress) (address : String) :
    Except Fault Unit :=
  match Address.split? address with
  | .error fault => .error fault
  | .ok (_, socket) =>
    match SocketAddress.readV4? socket.toList with
    | some target =>
      if n.up && Network.reaches target listener then .ok ()
      else .error (.io "Connection refused (os error 111)")
    | none => .error (.io "invalid socket address")

/-- Sends payloads to the listener, if the address leads to it; else the only result is why not. -/
def reportTo (n : Network) (listener : SocketAddress) (address : String) (r : Registry)
    (payloads : List Bytes) : Registry × List (Except Fault Bool) :=
  match findListener n listener address with
  | .ok () => Report.Client.converse r (some listener.ip) payloads
  | .error fault => (r, [.error fault])

end HostFleet.Rehearsal
