import HostFleet.Gossip.Membership
import HostFleet.Proofs.Registry.Records

/-! # What a datagram does to the registry

A datagram either carries a well-formed heartbeat, or a malformed one whose sender can still be read, or
nothing that matters.

* `Gossip.announced?`, `Gossip.suspected?`: the heartbeat of the first, the sender of the second.
* `receive_cases`: what is done in each of the three cases; nothing else is.
* `sameRecords_receive`: no datagram touches a record.
* `get?_receive_of_ne`: a datagram touches no other endpoint than the one it is about.
-/

set_option autoImplicit false

namespace HostFleet.Gossip

open Registry

/-- The well-formed heartbeat that a datagram carries, with its command. -/
def announced? (datagram : Bytes) : Option (GossipCommand × Heartbeat) :=
  match Envelope.split datagram with
  | none => none
  | some (data, name) =>
    match GossipCommand.ofWire? name, Heartbeat.parse? data with
    | some command, .ok h => some (command, h)
    | _, _ => none

/-- The sender that a malformed heartbeat still names. -/
def suspected? (datagram : Bytes) : Option String :=
  match Envelope.split datagram with
  | none => none
  | some (data, name) =>
    match GossipCommand.ofWire? name, Heartbeat.parse? data with
    | some _, .error _ => sender? data
    | _, _ => none

/-- The address that a datagram is about. -/
def subject? (datagram : Bytes) : Option String :=
  ((announced? datagram).map (·.2.address)).or (suspected? datagram)

/-- A well-formed heartbeat is recorded; a malformed one refreshes its sender if that is stored; any
other datagram is passed over. -/
theorem receive_cases (r : Registry) (datagram : Bytes) (now : Moment) :
    (∃ command h, announced? datagram = some (command, h) ∧
      receive r datagram now =
        ((r.recordHeartbeat h.address h.hostname command.role h.status now).1,
          some (r.recordHeartbeat h.address h.hostname command.role h.status now).2)) ∨
    (announced? datagram = none ∧ ∃ a, suspected? datagram = some a ∧
      receive r datagram now =
        if r.endpoints.contains a then (r.refresh a now, some .refreshed) else (r, none)) ∨
    (announced? datagram = none ∧ suspected? datagram = none ∧
      receive r datagram now = (r, none)) := by
  unfold announced? suspected? receive
  cases hsplit : Envelope.split datagram with
  | none => exact .inr (.inr ⟨rfl, rfl, rfl⟩)
  | some found =>
    obtain ⟨data, name⟩ := found
    dsimp only
    cases hcommand : GossipCommand.ofWire? name with
    | none => exact .inr (.inr ⟨rfl, rfl, rfl⟩)
    | some command =>
      dsimp only
      cases hparse : Heartbeat.parse? data with
      | ok h => exact .inl ⟨command, h, rfl, rfl⟩
      | error fault =>
        dsimp only
        unfold refreshSender
        cases sender? data with
        | some a => exact .inr (.inl ⟨rfl, a, rfl, rfl⟩)
        | none => exact .inr (.inr ⟨rfl, rfl, rfl⟩)

theorem sameRecords_receive (r : Registry) (datagram : Bytes) (now : Moment) :
    SameRecords r (receive r datagram now).1 := by
  rcases receive_cases r datagram now with ⟨command, h, -, hr⟩ | ⟨-, a, -, hr⟩ | ⟨-, -, hr⟩
  · rw [hr]
    exact sameRecords_recordHeartbeat r _ _ _ _ now
  · rw [hr]
    split
    · exact sameRecords_refresh r a now
    · exact .refl r
  · rw [hr]
    exact .refl r

/-! ## The address that a datagram is about -/

section
variable {datagram : Bytes} {a : String}

theorem subject?_of_announced {found : GossipCommand × Heartbeat}
    (h : announced? datagram = some found) : subject? datagram = some found.2.address := by
  unfold subject?
  rw [h]
  rfl

theorem subject?_of_not_announced (h : announced? datagram = none) :
    subject? datagram = suspected? datagram := by
  unfold subject?
  rw [h]
  rfl

theorem get?_receive_of_ne (r : Registry) (now : Moment) (h : subject? datagram ≠ some a) :
    (receive r datagram now).1.endpoints.get? a = r.endpoints.get? a := by
  rcases receive_cases r datagram now with
    ⟨command, heartbeat, hsaid, hr⟩ | ⟨hunsaid, b, hsuspect, hr⟩ | ⟨-, -, hr⟩
  · rw [subject?_of_announced hsaid] at h
    have ha : a ≠ heartbeat.address := fun heq => h (congrArg some heq.symm)
    rw [hr]
    unfold recordHeartbeat
    split
    · rw [get?_refresh, if_neg ha]
    · rw [get?_addEndpoint, if_neg ha]
  · rw [subject?_of_not_announced hunsaid, hsuspect] at h
    have ha : a ≠ b := fun heq => h (congrArg some heq.symm)
    rw [hr]
    split
    · rw [get?_refresh, if_neg ha]
    · rfl
  · rw [hr]

end

end HostFleet.Gossip
