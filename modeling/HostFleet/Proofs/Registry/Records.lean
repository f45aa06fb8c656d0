import HostFleet.Proofs.Registry.Consistent
import HostFleet.Report.Change

/-! # Records by kind and id

Containers and images are kept alike. Here a record is named by its kind and its id, so that what is
said of one kind is said of both.

* `Registry.record?`, `Registry.owner?`: the record under a kind and an id, and its owner if there is one.
* `record?_store`, `record?_drop`: what storing and dropping a record does to every other.
* `record?_evict`: a sweep takes the records of the evicted hosts, and only where records go with hosts.
* `owner?_eq_some_iff`: the owner that is looked up is the host of the record, unless it is empty.
-/

set_option autoImplicit false

namespace HostFleet

/-- The two kinds of records. -/
inductive Kind where
  | container
  | image
  deriving DecidableEq, Repr

namespace Report.Resource

def kind : Resource → Kind
  | container _ => .container
  | image _ => .image

def id : Resource → String
  | container r => r.id
  | image r => r.id

/-- Is it a record of this kind and id? -/
def isOf (kind : Kind) (id : String) (x : Resource) : Bool := x.kind = kind ∧ x.id = id

end Report.Resource

namespace Registry

open Report (Resource)

/-- The record of a kind under an id. -/
def record? (r : Registry) : Kind → String → Option Resource
  | .container, id => (r.containers.get? id).map .container
  | .image, id => (r.images.get? id).map .image

@[simp] theorem record?_container (r : Registry) (id : String) :
    r.record? .container id = (r.containers.get? id).map .container := rfl

@[simp] theorem record?_image (r : Registry) (id : String) :
    r.record? .image id = (r.images.get? id).map .image := rfl

/-- The owner of a record of a kind, if it has one. -/
def owner? (r : Registry) : Kind → String → Option String
  | .container, id => r.containerOwner? id
  | .image, id => r.imageOwner? id

/-- The registry without a record. -/
def drop (r : Registry) : Kind → String → Registry
  | .container, id => r.unregisterContainer id
  | .image, id => r.unregisterImage id

variable {r s : Registry} {kind : Kind} {id : String}

theorem record?_empty (cascade : Bool) (kind : Kind) (id : String) :
    (Registry.empty cascade).record? kind id = none := by
  cases kind <;> rfl

theorem SameRecords.record? (h : SameRecords r s) (kind : Kind) (id : String) :
    s.record? kind id = r.record? kind id := by
  cases kind with
  | container => rw [record?_container, h.containers, record?_container]
  | image => rw [record?_image, h.images, record?_image]

/-! ## Storing and dropping -/

theorem sameMembers_store (r : Registry) (x : Resource) : SameMembers r (x.store r) := by
  cases x with
  | container record => exact sameMembers_registerContainer r record.id record
  | image record => exact sameMembers_registerImage r record.id record

theorem record?_store (r : Registry) (x : Resource) (kind : Kind) (id : String) :
    (x.store r).record? kind id = if x.isOf kind id then some x else r.record? kind id := by
  cases x with
  | container record =>
    cases kind with
    | image => simp [Resource.isOf, Resource.kind, Resource.store, registerContainer, record?]
    | container =>
      simp only [Resource.store, registerContainer, record?, Resource.isOf, Resource.kind,
        Resource.id, Book.get?_set]
      by_cases hid : id = record.id
      · rw [if_pos hid]
        simp [hid]
      · rw [if_neg hid]
        simp [Ne.symm hid]
  | image record =>
    cases kind with
    | container => simp [Resource.isOf, Resource.kind, Resource.store, registerImage, record?]
    | image =>
      simp only [Resource.store, registerImage, record?, Resource.isOf, Resource.kind,
        Resource.id, Book.get?_set]
      by_cases hid : id = record.id
      · rw [if_pos hid]
        simp [hid]
      · rw [if_neg hid]
        simp [Ne.symm hid]

theorem record?_drop (r : Registry) (kind kind' : Kind) (id id' : String) :
    (r.drop kind id).record? kind' id' =
      (r.record? kind' id').filter fun _ => !decide (kind' = kind ∧ id' = id) := by
  have herase : (r.drop kind id).record? kind' id' =
      if kind' = kind ∧ id' = id then none else r.record? kind' id' := by
    cases kind <;> cases kind' <;>
      simp only [drop, unregisterContainer, unregisterImage, record?, Book.get?_erase, true_and,
        reduceCtorEq, false_and, if_false] <;>
      split <;> rfl
  rw [herase]
  cases r.record? kind' id' with
  | none => exact ite_self none
  | some x => by_cases h : kind' = kind ∧ id' = id <;> simp [Option.filter, h]

/-! ## Eviction -/

theorem filter_of_forall {α : Type} {p : α → Bool} (h : ∀ x, p x = true) (o : Option α) :
    o.filter p = o := by
  cases o with
  | none => rfl
  | some x => exact Option.filter_some_pos (h x)

/-- The records of a host are those that name it. -/
theorem Consistent.record?_removeResourcesOf (h : r.Consistent) (host : String) (kind : Kind)
    (id : String) :
    (r.removeResourcesOf host).record? kind id =
      (r.record? kind id).filter fun x => x.host != host := by
  cases kind with
  | container =>
    have hget : (r.removeResourcesOf host).containers.get? id =
        (r.containers.get? id).filter fun record => record.host != host :=
      h.containers.get?_filter host id
    rw [record?_container, record?_container, hget, Option.filter_map]
    rfl
  | image =>
    have hget : (r.removeResourcesOf host).images.get? id =
        (r.images.get? id).filter fun record => record.host != host :=
      h.images.get?_filter host id
    rw [record?_image, record?_image, hget, Option.filter_map]
    rfl

/-- An evicted host takes its records along where records go with their host. -/
theorem Consistent.record?_evictEndpoint (h : r.Consistent) (address : String) (kind : Kind)
    (id : String) :
    (r.evictEndpoint address).record? kind id =
      (r.record? kind id).filter fun x => !(r.cascade && x.host == address) := by
  have hsame := sameRecords_removeEndpoint r address
  unfold Registry.evictEndpoint
  simp only
  rw [hsame.cascade]
  by_cases hcascade : r.cascade = true
  · rw [if_pos hcascade, (h.removeEndpoint address).record?_removeResourcesOf, hsame.record?]
    simp [hcascade, bne]
  · rw [if_neg hcascade, hsame.record?, filter_of_forall]
    simp [hcascade]

theorem cascade_evictEndpoint (r : Registry) (address : String) :
    (r.evictEndpoint address).cascade = r.cascade := by
  unfold evictEndpoint
  simp only
  split
  · rw [(sameMembers_removeResourcesOf _ _).cascade, (sameRecords_removeEndpoint r address).cascade]
  · exact (sameRecords_removeEndpoint r address).cascade

/-- Of the endpoints a sweep leaves all but those it evicts. -/
theorem get?_evict (r : Registry) (now : Moment) (maxAge : Span) (a : String) :
    (r.evict now maxAge).1.endpoints.get? a =
      if (r.evict now maxAge).2.any (·.address == a) then none else r.endpoints.get? a := by
  unfold evict
  generalize r.stale now maxAge = gone
  simp only
  induction gone generalizing r with
  | nil => rfl
  | cons e gone ih =>
    rw [List.foldl_cons, ih, endpoints_evictEndpoint, Book.get?_erase, List.any_cons]
    by_cases he : e.address = a
    · simp [he]
    · simp [he, Ne.symm he]

/-- Of the records a sweep takes those of the hosts it evicts, where records go with their host. -/
theorem Consistent.record?_evict (h : r.Consistent) (now : Moment) (maxAge : Span) (kind : Kind)
    (id : String) :
    (r.evict now maxAge).1.record? kind id = (r.record? kind id).filter fun x =>
      !(r.cascade && (r.evict now maxAge).2.any (·.address == x.host)) := by
  unfold Registry.evict
  generalize r.stale now maxAge = gone
  simp only
  induction gone generalizing r with
  | nil =>
    rw [filter_of_forall]
    · rfl
    · simp
  | cons e gone ih =>
    rw [List.foldl_cons, ih (h.evictEndpoint e.address), h.record?_evictEndpoint,
      cascade_evictEndpoint, Option.filter_filter]
    refine congrArg (fun p => (r.record? kind id).filter p) (funext fun x => ?_)
    rw [List.any_cons, Bool.beq_comm]
    cases r.cascade <;> cases e.address == x.host <;> simp

theorem cascade_evict (r : Registry) (now : Moment) (maxAge : Span) :
    (r.evict now maxAge).1.cascade = r.cascade := by
  unfold evict
  generalize r.stale now maxAge = gone
  simp only
  induction gone generalizing r with
  | nil => rfl
  | cons e gone ih => rw [List.foldl_cons, ih, cascade_evictEndpoint]

/-! ## Owners -/

/-- The owner that is found for an id is the host of its record, unless that is empty. -/
theorem Consistent.owner?_eq_some_iff (h : r.Consistent) {owner : String} :
    r.owner? kind id = some owner ↔
      owner ≠ "" ∧ ∃ x, r.record? kind id = some x ∧ x.host = owner := by
  cases kind with
  | container =>
    simp only [owner?, containerOwner?, record?, Option.filter_eq_some_iff, h.containers id]
    cases r.containers.get? id <;> simp [Resource.host, and_comm]
  | image =>
    simp only [owner?, imageOwner?, record?, Option.filter_eq_some_iff, h.images id]
    cases r.images.get? id <;> simp [Resource.host, and_comm]

end Registry

end HostFleet
