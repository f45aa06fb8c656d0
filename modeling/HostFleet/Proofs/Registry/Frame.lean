import HostFleet.Registry.Operation

/-! # What an operation leaves alone

A registry has two halves: its members with their roles and assignments, and its records with their
owners. Almost every operation works on one half only.

* `SameRecords`, `SameMembers`: the one or the other half of two registries is the same.
* `sameRecords_recordHeartbeat`, `sameRecords_selectHost`: membership and placement touch no record.
* `sameMembers_registerContainer` and its like: a report about a record touches no member.
* `contains_insert`, `contains_erase`: what one change of the index does to every role.
-/

set_option autoImplicit false

namespace HostFleet

/-! ## The index of roles -/

namespace RoleIndex

theorem contains_insert {i : RoleIndex} {r s : Role} {a b : String} :
    ((i.insert r a).of s).contains b = true ↔ (s = r ∧ b = a) ∨ (i.of s).contains b = true := by
  unfold insert
  rw [of_modify]
  by_cases hs : s = r
  · subst hs
    rw [if_pos rfl, Book.contains, Book.get?_set, Book.contains]
    by_cases hb : b = a <;> simp [hb]
  · simp [hs]

theorem contains_erase {i : RoleIndex} {r s : Role} {a b : String} :
    ((i.erase r a).of s).contains b = true ↔ ¬(s = r ∧ b = a) ∧ (i.of s).contains b = true := by
  unfold erase
  rw [of_modify]
  by_cases hs : s = r
  · subst hs
    rw [if_pos rfl, Book.contains, Book.get?_erase, Book.contains]
    by_cases hb : b = a <;> simp [hb]
  · simp [hs]

end RoleIndex

namespace Registry

/-! ## Two halves -/

/-- The records, their owners, and what becomes of them are the same. -/
structure SameRecords (r s : Registry) : Prop where
  cascade : s.cascade = r.cascade
  containers : s.containers = r.containers
  containerOwners : s.containerOwners = r.containerOwners
  images : s.images = r.images
  imageOwners : s.imageOwners = r.imageOwners

/-- The endpoints, their roles and their assignments are the same. -/
structure SameMembers (r s : Registry) : Prop where
  cascade : s.cascade = r.cascade
  endpoints : s.endpoints = r.endpoints
  roles : s.roles = r.roles
  assignments : s.assignments = r.assignments
  lastAssignment : s.lastAssignment = r.lastAssignment

theorem SameRecords.refl (r : Registry) : SameRecords r r := ⟨rfl, rfl, rfl, rfl, rfl⟩

theorem SameMembers.refl (r : Registry) : SameMembers r r := ⟨rfl, rfl, rfl, rfl, rfl⟩

theorem SameMembers.trans {r s t : Registry} (h : SameMembers r s) (h' : SameMembers s t) :
    SameMembers r t :=
  ⟨h'.cascade.trans h.cascade, h'.endpoints.trans h.endpoints, h'.roles.trans h.roles,
    h'.assignments.trans h.assignments, h'.lastAssignment.trans h.lastAssignment⟩

theorem SameMembers.members {r s : Registry} (h : SameMembers r s) (role : Role) :
    s.members role = r.members role := by
  unfold Registry.members
  rw [h.roles, h.endpoints]

theorem SameMembers.runtimeHostAt {r s : Registry} (h : SameMembers r s) (ip : Ip) :
    s.runtimeHostAt ip = r.runtimeHostAt ip := by
  unfold Registry.runtimeHostAt
  rw [h.members]

/-! ## Members change, records stay -/

theorem sameRecords_addEndpoint (r : Registry) (e : Endpoint) : SameRecords r (r.addEndpoint e) :=
  ⟨rfl, rfl, rfl, rfl, rfl⟩

theorem sameRecords_refresh (r : Registry) (address : String) (now : Moment) :
    SameRecords r (r.refresh address now) := ⟨rfl, rfl, rfl, rfl, rfl⟩

theorem sameRecords_recordHeartbeat (r : Registry) (address hostname : String) (role : Role)
    (status : Int) (now : Moment) :
    SameRecords r (r.recordHeartbeat address hostname role status now).1 := by
  unfold recordHeartbeat
  split
  · exact sameRecords_refresh r address now
  · exact sameRecords_addEndpoint r _

theorem sameRecords_removeEndpoint (r : Registry) (address : String) :
    SameRecords r (r.removeEndpoint address) := by
  unfold removeEndpoint
  split
  · exact ⟨rfl, rfl, rfl, rfl, rfl⟩
  · exact .refl r

theorem sameRecords_selectHost (r : Registry) : SameRecords r r.selectHost.1 := by
  unfold selectHost
  split
  · exact .refl r
  · exact ⟨rfl, rfl, rfl, rfl, rfl⟩

/-- A selection changes nothing but the numbers of the assignments. -/
theorem endpoints_selectHost (r : Registry) : r.selectHost.1.endpoints = r.endpoints := by
  unfold selectHost
  split <;> rfl

theorem roles_selectHost (r : Registry) : r.selectHost.1.roles = r.roles := by
  unfold selectHost
  split <;> rfl

/-! ## Records change, members stay -/

theorem sameMembers_registerContainer (r : Registry) (id : String) (record : ContainerRecord) :
    SameMembers r (r.registerContainer id record) := ⟨rfl, rfl, rfl, rfl, rfl⟩

theorem sameMembers_unregisterContainer (r : Registry) (id : String) :
    SameMembers r (r.unregisterContainer id) := ⟨rfl, rfl, rfl, rfl, rfl⟩

theorem sameMembers_registerImage (r : Registry) (id : String) (record : ImageRecord) :
    SameMembers r (r.registerImage id record) := ⟨rfl, rfl, rfl, rfl, rfl⟩

theorem sameMembers_unregisterImage (r : Registry) (id : String) :
    SameMembers r (r.unregisterImage id) := ⟨rfl, rfl, rfl, rfl, rfl⟩

theorem sameMembers_removeResourcesOf (r : Registry) (host : String) :
    SameMembers r (r.removeResourcesOf host) := ⟨rfl, rfl, rfl, rfl, rfl⟩

/-! ## Endpoints one by one -/

theorem endpoints_removeEndpoint (r : Registry) (address : String) :
    (r.removeEndpoint address).endpoints = r.endpoints.erase address := by
  unfold removeEndpoint
  split
  · rfl
  · next h => exact (Book.erase_of_get?_eq_none h).symm

theorem endpoints_evictEndpoint (r : Registry) (address : String) :
    (r.evictEndpoint address).endpoints = r.endpoints.erase address := by
  unfold evictEndpoint
  simp only
  split
  · rw [(sameMembers_removeResourcesOf _ _).endpoints, endpoints_removeEndpoint]
  · exact endpoints_removeEndpoint r address

theorem get?_addEndpoint (r : Registry) (e : Endpoint) (a : String) :
    (r.addEndpoint e).endpoints.get? a = if a = e.address then some e else r.endpoints.get? a :=
  r.endpoints.get?_set e.address a e

theorem get?_refresh (r : Registry) (address : String) (now : Moment) (other : String) :
    (r.refresh address now).endpoints.get? other =
      if other = address then (r.endpoints.get? address).map fun e => { e with lastSeen := now }
      else r.endpoints.get? other :=
  r.endpoints.get?_update address other _

theorem recordHeartbeat_of_get?_eq_some {r : Registry} {address : String} {e : Endpoint}
    (h : r.endpoints.get? address = some e) (hostname : String) (role : Role) (status : Int)
    (now : Moment) :
    r.recordHeartbeat address hostname role status now = (r.refresh address now, .refreshed) := by
  have hc : r.endpoints.contains address = true := Book.contains_iff.2 ⟨e, h⟩
  unfold recordHeartbeat
  rw [if_pos hc]

theorem recordHeartbeat_of_get?_eq_none {r : Registry} {address : String}
    (h : r.endpoints.get? address = none) (hostname : String) (role : Role) (status : Int)
    (now : Moment) :
    r.recordHeartbeat address hostname role status now =
      (r.addEndpoint ⟨address, hostname, role, status, now, .peer⟩, .joined) := by
  have hc : ¬ r.endpoints.contains address = true := by
    rw [Book.contains, h]
    exact Bool.false_ne_true
  unfold recordHeartbeat
  rw [if_neg hc]

/-! ## Placement -/

theorem mem_of_leastAssigned {r : Registry} {es : List Endpoint} {e : Endpoint}
    (h : r.leastAssigned es = some e) : e ∈ es := by
  induction es generalizing e with
  | nil => cases h
  | cons x es ih =>
    simp only [leastAssigned] at h
    split at h
    · injection h with h
      exact h ▸ List.mem_cons_self
    · next best hb =>
      split at h
      · injection h with h
        exact List.mem_cons_of_mem x (h ▸ ih hb)
      · injection h with h
        exact h ▸ List.mem_cons_self

end Registry

end HostFleet
