import HostFleet.Proofs.Report.Effect
import HostFleet.Report.Connection

/-! # The writes of a report

A report comes down to writes of single records.

* `Write`: the change of one record, done in one step; `Write.apply_comm`: two records, either order.
* `Write.Apart`, `Write.applyAll_comm`: writes of different records, one group before the other.
* `names`: the records that a payload is about; `key_payloadWrites`: it writes those and no others.
* `Task.write?`, `Task.answer?`, `Task.steps`: what a task comes to.
* `acknowledgeAll_eq`: payloads one after another are their writes and their answers.
-/

set_option autoImplicit false

namespace HostFleet

/-! ## Books -/

namespace Book

variable {α : Type}

/-- The book with the value under the name, or without the name. -/
def put (b : Book α) (name : String) : Option α → Book α
  | some value => b.set name value
  | none => b.erase name

theorem get?_put (b : Book α) (name other : String) (value : Option α) :
    (b.put name value).get? other = if other = name then value else b.get? other := by
  cases value with
  | some value => exact b.get?_set name other value
  | none => exact b.get?_erase name other

theorem put_comm {name name' : String} (h : name ≠ name') (b : Book α) (value value' : Option α) :
    (b.put name value).put name' value' = (b.put name' value').put name value := by
  refine ext_get? fun other => ?_
  rw [get?_put, get?_put, get?_put, get?_put]
  by_cases hname : other = name
  · rw [if_pos hname, if_neg (fun hname' => h (hname.symm.trans hname')), if_pos hname]
  · rw [if_neg hname, if_neg hname]

end Book

namespace Report

open Registry

variable {r s : Registry} {peer : Option Ip}

/-! ## Writes -/

/-- What a report does to one record: it stores or removes it. -/
inductive Write where
  | container (id : String) (record : Option ContainerRecord)
  | image (id : String) (record : Option ImageRecord)

namespace Write

/-- The record that is written. -/
def key : Write → Kind × String
  | container id _ => (.container, id)
  | image id _ => (.image, id)

def apply (r : Registry) : Write → Registry
  | container id record =>
    { r with
      containerOwners := r.containerOwners.put id (record.map (·.host))
      containers := r.containers.put id record }
  | image id record =>
    { r with
      imageOwners := r.imageOwners.put id (record.map (·.host))
      images := r.images.put id record }

def storing : Resource → Write
  | .container record => container record.id (some record)
  | .image record => image record.id (some record)

theorem key_storing (x : Resource) : (storing x).key = (x.kind, x.id) := by cases x <;> rfl

theorem apply_storing (r : Registry) (x : Resource) : (storing x).apply r = x.store r := by
  cases x <;> rfl

theorem sameMembers_apply (r : Registry) (w : Write) : SameMembers r (w.apply r) := by
  cases w <;> exact ⟨rfl, rfl, rfl, rfl, rfl⟩

/-- Two records are written in either order. -/
theorem apply_comm {w v : Write} (h : w.key ≠ v.key) (r : Registry) :
    v.apply (w.apply r) = w.apply (v.apply r) := by
  cases w with
  | container id record =>
    cases v with
    | image id' record' => rfl
    | container id' record' =>
      have hid : id ≠ id' := fun hid => h (by rw [hid]; rfl)
      simp only [apply, Book.put_comm hid]
  | image id record =>
    cases v with
    | container id' record' => rfl
    | image id' record' =>
      have hid : id ≠ id' := fun hid => h (by rw [hid]; rfl)
      simp only [apply, Book.put_comm hid]

theorem record?_apply_of_ne {w : Write} {kind : Kind} {id : String} (h : w.key ≠ (kind, id))
    (r : Registry) : (w.apply r).record? kind id = r.record? kind id := by
  cases w with
  | container id' record =>
    cases kind with
    | image => rfl
    | container =>
      have hid : id ≠ id' := fun hid => h (by rw [hid]; rfl)
      rw [record?_container, record?_container, apply, Book.get?_put, if_neg hid]
  | image id' record =>
    cases kind with
    | container => rfl
    | image =>
      have hid : id ≠ id' := fun hid => h (by rw [hid]; rfl)
      rw [record?_image, record?_image, apply, Book.get?_put, if_neg hid]

/-- The registry after some writes. -/
def applyAll (r : Registry) (writes : List Write) : Registry := writes.foldl apply r

theorem applyAll_append (r : Registry) (ws vs : List Write) :
    applyAll r (ws ++ vs) = applyAll (applyAll r ws) vs := List.foldl_append

theorem sameMembers_applyAll (r : Registry) (writes : List Write) :
    SameMembers r (applyAll r writes) := by
  induction writes generalizing r with
  | nil => exact .refl r
  | cons w writes ih => exact (sameMembers_apply r w).trans (ih (w.apply r))

theorem record?_applyAll_of_forall_ne {writes : List Write} {kind : Kind} {id : String}
    (h : ∀ w ∈ writes, w.key ≠ (kind, id)) (r : Registry) :
    (applyAll r writes).record? kind id = r.record? kind id := by
  induction writes generalizing r with
  | nil => rfl
  | cons w writes ih =>
    have hrest := ih (fun v hv => h v (List.mem_cons_of_mem w hv)) (w.apply r)
    exact hrest.trans (record?_apply_of_ne (h w List.mem_cons_self) r)

/-- No record is written by both. -/
def Apart (ws vs : List Write) : Prop := ∀ w ∈ ws, ∀ v ∈ vs, w.key ≠ v.key

theorem Apart.mono {ws ws' vs vs' : List Write} (h : Apart ws vs) (hws : ws' ⊆ ws)
    (hvs : vs' ⊆ vs) : Apart ws' vs' :=
  fun w hw v hv => h w (hws hw) v (hvs hv)

theorem applyAll_apply_comm {w : Write} {vs : List Write} (h : ∀ v ∈ vs, w.key ≠ v.key)
    (r : Registry) : applyAll (w.apply r) vs = w.apply (applyAll r vs) := by
  induction vs generalizing r with
  | nil => rfl
  | cons v vs ih =>
    have hfirst := apply_comm (h v List.mem_cons_self) r
    have hrest := ih (fun v' hv' => h v' (List.mem_cons_of_mem v hv')) (v.apply r)
    show applyAll (v.apply (w.apply r)) vs = w.apply (applyAll (v.apply r) vs)
    rw [hfirst, hrest]

theorem applyAll_comm {ws vs : List Write} (h : Apart ws vs) (r : Registry) :
    applyAll (applyAll r ws) vs = applyAll (applyAll r vs) ws := by
  induction ws generalizing r with
  | nil => rfl
  | cons w ws ih =>
    have hfirst := applyAll_apply_comm (h w List.mem_cons_self) r
    have hrest := ih (fun w' hw' => h w' (List.mem_cons_of_mem w hw')) (w.apply r)
    show applyAll (applyAll (w.apply r) ws) vs = applyAll (w.apply (applyAll r vs)) ws
    rw [hrest, hfirst]

end Write

/-! ## What is named -/

theorem kind_withOwner (r : Registry) (peer : Option Ip) (x : Resource) :
    (x.withOwner r peer).kind = x.kind := by
  unfold Resource.withOwner
  split <;> cases x <;> rfl

theorem id_withOwner (r : Registry) (peer : Option Ip) (x : Resource) :
    (x.withOwner r peer).id = x.id := by
  unfold Resource.withOwner
  split <;> cases x <;> rfl

/-- The records that a change is about. -/
def Change.names : Change → List (Kind × String)
  | take resources => resources.map fun x => (x.kind, x.id)
  | dropImage id => [(.image, id)]
  | dropContainer id => [(.container, id)]

/-- The records that a payload is about; a refused payload is about none. -/
def names (payload : Bytes) : List (Kind × String) :=
  match Reporter.change? payload with
  | .ok change => change.names
  | .error _ => []

/-! ## Tasks -/

namespace Task

/-- What a task comes to write. -/
def write? (r : Registry) (peer : Option Ip) : Task → Option Write
  | own x => some (.storing (x.withOwner r peer))
  | store x => some (.storing x)
  | dropImage id => some (.image id none)
  | dropContainer id => some (.container id none)
  | acknowledge => none

def answer? : Task → Option Bool
  | acknowledge => some true
  | _ => none

/-- How many steps a task takes: the record of an owner that is looked for is stored in a second one. -/
def steps : Task → Nat
  | own _ => 2
  | _ => 1

theorem write?_of_sameMembers (h : SameMembers r s) (peer : Option Ip) :
    write? s peer = write? r peer := by
  funext task
  cases task with
  | own x => simp only [write?, withOwner_of_sameMembers h]
  | _ => rfl

theorem write?_begin (r : Registry) (peer : Option Ip) (x : Resource) :
    (begin x).write? r peer = some (.storing (x.withOwner r peer)) := by
  unfold begin
  split
  · rfl
  · next h =>
    unfold Resource.withOwner
    rw [if_neg h]
    rfl

theorem answer?_begin (x : Resource) : (begin x).answer? = none := by
  unfold begin
  split <;> rfl

end Task

namespace Change

/-- The writes of a change, record by record. -/
def writes (r : Registry) (peer : Option Ip) (change : Change) : List Write :=
  (Task.ofChange change).filterMap (Task.write? r peer)

theorem writes_take (r : Registry) (peer : Option Ip) (resources : List Resource) :
    (take resources).writes r peer = resources.map fun x => .storing (x.withOwner r peer) := by
  have hbegin : Task.write? r peer ∘ Task.begin =
      some ∘ fun x => .storing (x.withOwner r peer) := funext (Task.write?_begin r peer)
  unfold writes Task.ofChange
  rw [List.filterMap_append, List.filterMap_map, hbegin, List.filterMap_eq_map]
  exact List.append_nil _

theorem key_writes (r : Registry) (peer : Option Ip) (change : Change) :
    (change.writes r peer).map Write.key = change.names := by
  cases change with
  | take resources =>
    rw [writes_take, List.map_map]
    refine List.map_congr_left fun x _ => ?_
    show (Write.storing (x.withOwner r peer)).key = (x.kind, x.id)
    rw [Write.key_storing, kind_withOwner, id_withOwner]
  | dropImage id => rfl
  | dropContainer id => rfl

theorem apply_eq_applyAll (r : Registry) (peer : Option Ip) (change : Change) :
    change.apply r peer = Write.applyAll r (change.writes r peer) := by
  cases change with
  | take resources =>
    rw [apply_take, writes_take, Write.applyAll, List.foldl_map, List.foldl_map]
    simp only [Write.apply_storing]
  | dropImage id => rfl
  | dropContainer id => rfl

theorem answers_ofChange (change : Change) :
    (Task.ofChange change).filterMap Task.answer? = [true] := by
  cases change with
  | dropImage id => rfl
  | dropContainer id => rfl
  | take resources =>
    unfold Task.ofChange
    rw [List.filterMap_append, List.filterMap_map]
    have hnone : resources.filterMap (Task.answer? ∘ Task.begin) = [] :=
      List.filterMap_eq_nil_iff.2 fun x _ => Task.answer?_begin x
    rw [hnone]
    rfl

end Change

/-! ## Payloads -/

/-- The writes of a payload; a refused payload writes nothing. -/
def payloadWrites (r : Registry) (peer : Option Ip) (payload : Bytes) : List Write :=
  match Reporter.change? payload with
  | .ok change => change.writes r peer
  | .error _ => []

def isTaken (payload : Bytes) : Bool := (Reporter.change? payload).isOk

theorem payloadWrites_of_sameMembers (h : SameMembers r s) (peer : Option Ip) :
    payloadWrites s peer = payloadWrites r peer := by
  funext payload
  unfold payloadWrites Change.writes
  rw [Task.write?_of_sameMembers h]

theorem key_payloadWrites (r : Registry) (peer : Option Ip) (payload : Bytes) :
    (payloadWrites r peer payload).map Write.key = names payload := by
  unfold payloadWrites names
  cases Reporter.change? payload with
  | ok change => exact change.key_writes r peer
  | error fault => rfl

theorem acknowledge_eq (peer : Option Ip) (r : Registry) (payload : Bytes) :
    acknowledge peer r payload =
      (Write.applyAll r (payloadWrites r peer payload), isTaken payload) := by
  unfold acknowledge payloadWrites isTaken
  cases h : Reporter.change? payload with
  | ok change =>
    obtain ⟨hregistry, command, hcommand⟩ :
        (handlePayload r peer payload).1 = change.apply r peer ∧
          ∃ command, (handlePayload r peer payload).2 = .ok command := handlePayload_of_ok h
    simp only [hregistry, hcommand, change.apply_eq_applyAll]
    rfl
  | error fault =>
    simp only [handlePayload_of_error h]
    rfl

theorem acknowledgeAll_eq (peer : Option Ip) (r : Registry) (payloads : List Bytes) :
    acknowledgeAll peer r payloads =
      (Write.applyAll r (payloads.flatMap (payloadWrites r peer)), payloads.map isTaken) := by
  induction payloads generalizing r with
  | nil => rfl
  | cons payload payloads ih =>
    have hsame := Write.sameMembers_applyAll r (payloadWrites r peer payload)
    simp only [acknowledgeAll, acknowledge_eq, ih, payloadWrites_of_sameMembers hsame]
    rw [List.flatMap_cons, Write.applyAll_append, List.map_cons]

end Report

end HostFleet
