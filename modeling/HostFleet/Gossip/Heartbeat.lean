import HostFleet.Decimal.Integer
import HostFleet.Envelope
import HostFleet.Fault
import HostFleet.Role
import HostFleet.Text.Quoted

/-! # Heartbeats

A member of the fleet announces itself by datagrams `<address> <hostname> <status> <command>`.

* `GossipCommand`: the commands; each announces one role, and one of them has a second name.
* `Heartbeat.encode`: the whole datagram, `Heartbeat.parse?` reads its data part.
-/

set_option autoImplicit false

namespace HostFleet

inductive GossipCommand where
  | agentInternal
  | containerRuntimeInternal
  | controllerProxy
  | controllerInternal
  deriving DecidableEq, Repr

namespace GossipCommand

def all : List GossipCommand :=
  [agentInternal, containerRuntimeInternal, controllerProxy, controllerInternal]

/-- The name that is sent. -/
def wireName : GossipCommand → String
  | agentInternal => "agent_internal_heartbeat"
  | containerRuntimeInternal => "container_runtime_internal_heartbeat"
  | controllerProxy => "controller_proxy_heartbeat"
  | controllerInternal => "controller_internal_heartbeat"

/-- The names that are understood, each with its command. -/
def wireNames : List (String × GossipCommand) :=
  all.map (fun c => (c.wireName, c)) ++ [("docker_internal_heartbeat", containerRuntimeInternal)]

def ofWire? (name : Bytes) : Option GossipCommand :=
  (wireNames.find? fun entry => Bytes.ofText entry.1 == name).map (·.2)

/-- The role that the command announces. -/
def role : GossipCommand → Role
  | agentInternal => .agentInternal
  | containerRuntimeInternal => .containerRuntimeInternal
  | controllerProxy => .controllerProxy
  | controllerInternal => .controllerInternal

def ofRole : Role → GossipCommand
  | .agentInternal => agentInternal
  | .containerRuntimeInternal => containerRuntimeInternal
  | .controllerProxy => controllerProxy
  | .controllerInternal => controllerInternal

theorem ofRole_role (c : GossipCommand) : ofRole c.role = c := by cases c <;> rfl

end GossipCommand

structure Heartbeat where
  address : String
  hostname : String
  status : Int
  deriving DecidableEq, Repr

namespace Heartbeat

/-- The three fields with a space between them. -/
def text (h : Heartbeat) : String :=
  h.address ++ " " ++ h.hostname ++ " " ++ toString h.status

/-- The datagram that announces the heartbeat under a command. -/
def encode (h : Heartbeat) (c : GossipCommand) : Bytes :=
  Envelope.join (Bytes.ofText h.text) c.wireName

/-- The heartbeat of a text of exactly three fields. -/
def ofText? (text : String) : Except Fault Heartbeat :=
  match Text.fields ' ' text.toList with
  | [address, hostname, status] =>
    if address.isEmpty then .error (.invalidHeartbeat "empty address")
    else match Decimal.int32? status with
      | some n => .ok ⟨String.ofList address, String.ofList hostname, n⟩
      | none =>
        .error (.invalidHeartbeat
          ("status is not an integer: " ++ Text.quote (String.ofList status)))
  | fields =>
    .error (.invalidHeartbeat
      ("expected 3 fields, got " ++ toString fields.length ++ ": " ++ Text.quote text))

/-- The heartbeat of the data part of a datagram. -/
def parse? (data : Bytes) : Except Fault Heartbeat :=
  match Bytes.text? data with
  | some text => ofText? text
  | none => .error (.invalidHeartbeat "payload is not UTF-8")

end Heartbeat

end HostFleet
