import HostFleet.Gossip.Heartbeat
import HostFleet.Registry.Basic

/-! # Membership by gossip

* `Gossip.receive`: applies one datagram. A heartbeat creates its endpoint or refreshes it; a malformed
  one still refreshes the endpoint that its first field names, if all of it is text.
* `Gossip.receiveAll`: applies what a socket hands over, at most `maxDatagram` bytes of each.
* `Gossip.tick`: what a controller sends out, and the sweep that follows.
-/

set_option autoImplicit false

namespace HostFleet.Gossip

/-- The part of a datagram that is received. -/
def maxDatagram : Nat := 2048

/-- The first field of a malformed heartbeat. -/
def sender? (data : Bytes) : Option String :=
  (Bytes.text? data).bind fun text =>
    let address := text.toList.takeWhile (· != ' ')
    if address.isEmpty then none else some (String.ofList address)

/-- A heartbeat that cannot be read shows that its sender is alive. -/
def refreshSender (r : Registry) (data : Bytes) (now : Moment) :
    Registry × Option HeartbeatOutcome :=
  match sender? data with
  | some address =>
    if r.endpoints.contains address then (r.refresh address now, some .refreshed) else (r, none)
  | none => (r, none)

/-- Applies one datagram that arrives at `now`. -/
def receive (r : Registry) (datagram : Bytes) (now : Moment) :
    Registry × Option HeartbeatOutcome :=
  match Envelope.split datagram with
  | none => (r, none)
  | some (data, name) =>
    match GossipCommand.ofWire? name with
    | none => (r, none)
    | some command =>
      match Heartbeat.parse? data with
      | .ok h =>
        let (r, outcome) := r.recordHeartbeat h.address h.hostname command.role h.status now
        (r, some outcome)
      | .error _ => refreshSender r data now

/-- Applies datagrams one after another, each cut to what is received. -/
def receiveAll (r : Registry) (datagrams : List Bytes) (now : Moment) : Registry :=
  datagrams.foldl (fun r d => (receive r (d.take maxDatagram) now).1) r

/-- The datagrams that announce some heartbeats. -/
def announcements (hs : List (GossipCommand × Heartbeat)) : List Bytes :=
  hs.map fun (command, h) => h.encode command

/-- One cycle: everything announced is sent, then silent peers are evicted. -/
def tick (r : Registry) (hs : List (GossipCommand × Heartbeat)) (now : Moment) (maxAge : Span) :
    List Bytes × Registry :=
  (announcements hs, (r.evict now maxAge).1)

end HostFleet.Gossip
