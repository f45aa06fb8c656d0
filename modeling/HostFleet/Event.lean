import HostFleet.Gossip.Membership
import HostFleet.Report.Change

/-! # Events

What reaches a controller's registry from outside, as data. A history is a list of events, the first
of them first.

* `Event.apply`: the registry after an event; `Event.applyAll`: after a history.
-/

set_option autoImplicit false

namespace HostFleet

inductive Event where
  /-- A datagram arrives. -/
  | datagram (data : Bytes) (now : Moment)
  /-- Silent peers are evicted. -/
  | sweep (now : Moment) (maxAge : Span)
  /-- A host reports on some connection. -/
  | report (peer : Option Ip) (payload : Bytes)
  /-- A host is selected for a new container. -/
  | selection
  deriving Repr

namespace Event

/-- The registry after an event. -/
def apply (r : Registry) : Event → Registry
  | datagram data now => (Gossip.receive r data now).1
  | sweep now maxAge => (r.evict now maxAge).1
  | report peer payload => (Report.handlePayload r peer payload).1
  | selection => r.selectHost.1

/-- The registry after a history. -/
def applyAll (r : Registry) (history : List Event) : Registry := history.foldl apply r

end Event

end HostFleet
