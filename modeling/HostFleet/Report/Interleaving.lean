import HostFleet.Gossip.Membership
import HostFleet.Report.Change

/-! # Connections side by side

Several hosts report at the same time while heartbeats arrive and sweeps run. What shares the registry
uses it for one step at a time, and any order of the steps of different connections may happen.

* `Task`: one use of the registry on behalf of a report; `Task.ofChange` are those of a change.
* `Reporter.step?`: a connection takes its next step.
* `Shared.Step`: a step of some connection, a datagram or a sweep; `Shared.ReportStep`: the first alone.
* `Shared.Reaches`: any number of steps.
-/

set_option autoImplicit false

namespace HostFleet.Report

/-! ## Tasks -/

inductive Task where
  /-- Look for the owner of a record that names no host. -/
  | own (resource : Resource)
  | store (resource : Resource)
  | dropImage (id : String)
  | dropContainer (id : String)
  /-- Everything is done: the frame is acknowledged. -/
  | acknowledge
  deriving Repr

namespace Task

/-- The first task for a record. -/
def begin (resource : Resource) : Task :=
  if resource.host.isEmpty then own resource else store resource

/-- The tasks of a change, record by record. -/
def ofChange : Change → List Task
  | .take resources => resources.map begin ++ [acknowledge]
  | .dropImage id => [dropImage id, acknowledge]
  | .dropContainer id => [dropContainer id, acknowledge]

end Task

/-! ## Connections -/

/-- A connection under way. -/
structure Reporter where
  peer : Option Ip
  /-- The payloads that are not begun. -/
  waiting : List Bytes
  /-- What is left to do for the payload that is begun; nothing between two payloads. -/
  tasks : List Task
  acks : List Bool
  deriving Repr

namespace Reporter

/-- A connection that has nothing read yet. -/
def start (peer : Option Ip) (payloads : List Bytes) : Reporter := ⟨peer, payloads, [], []⟩

def isDone (c : Reporter) : Bool := c.waiting.isEmpty && c.tasks.isEmpty

/-- The change that a payload asks for. -/
def change? (payload : Bytes) : Except Fault Change :=
  (opened? payload).bind fun (command, data) => Change.decode? command data

/-- The next payload is read; a refused one is acknowledged at once. -/
def beginPayload (c : Reporter) (payload : Bytes) (waiting : List Bytes) : Reporter :=
  match change? payload with
  | .ok change => { c with waiting, tasks := Task.ofChange change }
  | .error _ => { c with waiting, acks := c.acks ++ [false] }

/-- A task is carried out, with others behind it. -/
def perform (c : Reporter) (r : Registry) (task : Task) (tasks : List Task) : Registry × Reporter :=
  match task with
  | .own resource => (r, { c with tasks := .store (resource.withOwner r c.peer) :: tasks })
  | .store resource => (resource.store r, { c with tasks })
  | .dropImage id => (r.unregisterImage id, { c with tasks })
  | .dropContainer id => (r.unregisterContainer id, { c with tasks })
  | .acknowledge => (r, { c with tasks, acks := c.acks ++ [true] })

/-- The next step, if something is left to do. -/
def step? (c : Reporter) (r : Registry) : Option (Registry × Reporter) :=
  match c.tasks, c.waiting with
  | task :: tasks, _ => some (c.perform r task tasks)
  | [], payload :: waiting => some (r, c.beginPayload payload waiting)
  | [], [] => none

end Reporter

/-! ## Steps in any order -/

/-- A registry and the connections that share it. -/
structure Shared where
  registry : Registry
  reporters : List Reporter
  deriving Repr

namespace Shared

/-- Some connection takes its next step. -/
inductive ReportStep : Shared → Shared → Prop where
  | of {s : Shared} {i : Nat} {c c' : Reporter} {r : Registry}
      (found : s.reporters[i]? = some c) (taken : c.step? s.registry = some (r, c')) :
      ReportStep s ⟨r, s.reporters.set i c'⟩

/-- A connection takes a step, a datagram arrives, or silent peers are evicted. -/
inductive Step : Shared → Shared → Prop where
  | report {s t : Shared} (step : ReportStep s t) : Step s t
  | datagram (s : Shared) (data : Bytes) (now : Moment) :
      Step s { s with registry := (Gossip.receive s.registry data now).1 }
  | sweep (s : Shared) (now : Moment) (maxAge : Span) :
      Step s { s with registry := (s.registry.evict now maxAge).1 }

/-- Any number of steps of one kind. -/
inductive Reaches (step : Shared → Shared → Prop) : Shared → Shared → Prop where
  | refl (s : Shared) : Reaches step s s
  | tail {s t u : Shared} : Reaches step s t → step t u → Reaches step s u

/-- Nothing is left to do for any connection. -/
def IsDone (s : Shared) : Prop := ∀ c ∈ s.reporters, c.isDone = true

end Shared

end HostFleet.Report
