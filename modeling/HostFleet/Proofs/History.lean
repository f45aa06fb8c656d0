import HostFleet.Event
import HostFleet.Proofs.Gossip.Datagram
import HostFleet.Proofs.Report.Effect

/-! # Histories

What a history means for the registry is said of its events together with the registry that each of
them meets.

* `Occurrence`: an event and the registry it meets; `occurrences`: those of a history.
* `Event.apply_eq_run`: an event is a run of registry operations.
* `Consistent.applyAll`: so the books of a registry agree after every history.
-/

set_option autoImplicit false

namespace HostFleet

/-- An event that happens. -/
structure Occurrence where
  /-- The registry that the event meets. -/
  registry : Registry
  event : Event

namespace Occurrence

/-- The registry after the event. -/
def after (o : Occurrence) : Registry := o.event.apply o.registry

/-- Is it a sweep that evicts an endpoint of the address? -/
def evicts (o : Occurrence) (address : String) : Bool :=
  match o.event with
  | .sweep now maxAge => (o.registry.evict now maxAge).2.any (·.address == address)
  | _ => false

end Occurrence

/-- The events of a history as they happen, the first of them first. -/
def occurrences (r : Registry) : List Event → List Occurrence
  | [] => []
  | event :: history => ⟨r, event⟩ :: occurrences (event.apply r) history

namespace Event

theorem applyAll_concat (r : Registry) (history : List Event) (event : Event) :
    applyAll r (history ++ [event]) = event.apply (applyAll r history) := by
  unfold applyAll
  rw [List.foldl_append]
  rfl

theorem occurrences_concat (r : Registry) (history : List Event) (event : Event) :
    occurrences r (history ++ [event]) =
      occurrences r history ++ [⟨applyAll r history, event⟩] := by
  induction history generalizing r with
  | nil => rfl
  | cons first history ih =>
    have hfold : applyAll r (first :: history) = applyAll (first.apply r) history := rfl
    rw [hfold, List.cons_append, occurrences, ih, occurrences, List.cons_append]

/-! ## Events as operations -/

theorem receive_eq_run (r : Registry) (data : Bytes) (now : Moment) :
    ∃ ops, (Gossip.receive r data now).1 = r.run ops := by
  rcases Gossip.receive_cases r data now with ⟨command, h, -, hr⟩ | ⟨-, a, -, hr⟩ | ⟨-, -, hr⟩
  · rw [hr]
    exact ⟨[.heartbeat h.address h.hostname command.role h.status now], rfl⟩
  · rw [hr]
    split
    · exact ⟨[.refresh a now], rfl⟩
    · exact ⟨[], rfl⟩
  · rw [hr]
    exact ⟨[], rfl⟩

/-- The operation that stores a record. -/
def storing : Report.Resource → Registry.Operation
  | .container record => .registerContainer record.id record
  | .image record => .registerImage record.id record

theorem store_eq_apply (r : Registry) (x : Report.Resource) : x.store r = r.apply (storing x) := by
  cases x <;> rfl

theorem change_eq_run (r : Registry) (peer : Option Ip) (change : Report.Change) :
    ∃ ops, change.apply r peer = r.run ops := by
  cases change with
  | dropImage id => exact ⟨[.unregisterImage id], rfl⟩
  | dropContainer id => exact ⟨[.unregisterContainer id], rfl⟩
  | take resources =>
    refine ⟨(resources.map fun x => x.withOwner r peer).map storing, ?_⟩
    rw [Report.apply_take, Registry.run, List.foldl_map, List.foldl_map, List.foldl_map]
    simp only [store_eq_apply]

/-- Whatever happens is done by registry operations. -/
theorem apply_eq_run (r : Registry) (event : Event) : ∃ ops, event.apply r = r.run ops := by
  cases event with
  | datagram data now => exact receive_eq_run r data now
  | sweep now maxAge => exact ⟨[.evict now maxAge], rfl⟩
  | selection => exact ⟨[.select], rfl⟩
  | report peer payload =>
    cases h : Report.Reporter.change? payload with
    | ok change =>
      obtain ⟨ops, hops⟩ := change_eq_run r peer change
      exact ⟨ops, (Report.handlePayload_of_ok h).1.trans hops⟩
    | error fault => exact ⟨[], congrArg Prod.fst (Report.handlePayload_of_error h)⟩

end Event

namespace Registry

theorem Consistent.applyEvent {r : Registry} (h : r.Consistent) (event : Event) :
    (event.apply r).Consistent := by
  obtain ⟨ops, hops⟩ := event.apply_eq_run r
  rw [hops]
  exact h.run ops

theorem Consistent.applyAll {r : Registry} (h : r.Consistent) (history : List Event) :
    (Event.applyAll r history).Consistent := by
  induction history generalizing r with
  | nil => exact h
  | cons event history ih => exact ih (h.applyEvent event)

end Registry

end HostFleet
