import HostFleet.Proofs.Registry.Records
import HostFleet.Report.Interleaving

/-! # What a report does to the registry

* `handlePayload_of_ok`, `handlePayload_of_error`: a payload is carried out as a whole or not at all.
* `sameMembers_handlePayload`: reports never touch members.
* `apply_take`: the owner of every record of a report is the one of the beginning.
* `record?_take`: of the records of a report under one id the last one is kept.
* `Change.stores?`, `Change.drops`: what a change does to the record of a kind and id; `record?_apply`.
-/

set_option autoImplicit false

namespace HostFleet.Report

open Registry

variable {r : Registry} {peer : Option Ip} {payload : Bytes}

/-! ## Payloads -/

theorem handlePayload_of_ok {change : Change} (h : Reporter.change? payload = .ok change) :
    (handlePayload r peer payload).1 = change.apply r peer ∧
      ∃ command, (handlePayload r peer payload).2 = .ok command := by
  unfold Reporter.change? at h
  cases hopened : opened? payload with
  | error fault =>
    rw [hopened] at h
    cases h
  | ok found =>
    obtain ⟨command, data⟩ := found
    rw [hopened] at h
    have hdecode : Change.decode? command data = .ok change := h
    have hpayload : handlePayload r peer payload = (change.apply r peer, .ok command) := by
      simp only [handlePayload, hopened, handle, hdecode]
      rfl
    rw [hpayload]
    exact ⟨rfl, command, rfl⟩

theorem handlePayload_of_error {fault : Fault} (h : Reporter.change? payload = .error fault) :
    handlePayload r peer payload = (r, .error fault) := by
  unfold Reporter.change? at h
  cases hopened : opened? payload with
  | error fault' =>
    rw [hopened] at h
    injection h with h
    simp only [handlePayload, hopened, h]
  | ok found =>
    obtain ⟨command, data⟩ := found
    rw [hopened] at h
    have hdecode : Change.decode? command data = .error fault := h
    simp only [handlePayload, hopened, handle, hdecode]
    rfl

/-! ## Changes -/

theorem sameMembers_report (r : Registry) (peer : Option Ip) (x : Resource) :
    SameMembers r (x.report r peer) := sameMembers_store r _

theorem sameMembers_apply (r : Registry) (peer : Option Ip) (change : Change) :
    SameMembers r (change.apply r peer) := by
  cases change with
  | dropImage id => exact sameMembers_unregisterImage r id
  | dropContainer id => exact sameMembers_unregisterContainer r id
  | take resources =>
    unfold Change.apply
    induction resources generalizing r with
    | nil => exact .refl r
    | cons x resources ih => exact (sameMembers_report r peer x).trans (ih _)

theorem sameMembers_handlePayload (r : Registry) (peer : Option Ip) (payload : Bytes) :
    SameMembers r (handlePayload r peer payload).1 := by
  cases h : Reporter.change? payload with
  | ok change =>
    rw [(handlePayload_of_ok h).1]
    exact sameMembers_apply r peer change
  | error fault =>
    rw [handlePayload_of_error h]
    exact .refl r

/-! ## Lists of records -/

theorem withOwner_of_sameMembers {s : Registry} (h : SameMembers r s) (x : Resource) :
    x.withOwner s peer = x.withOwner r peer := by
  have howner : Resource.ownerFor s peer = Resource.ownerFor r peer := by
    unfold Resource.ownerFor
    cases peer with
    | none => rfl
    | some ip => simp only [Option.bind_some, h.runtimeHostAt]
  unfold Resource.withOwner
  rw [howner]

/-- A list of records is stored record by record, each with the owner found at the beginning. -/
theorem apply_take (r : Registry) (peer : Option Ip) (resources : List Resource) :
    (Change.take resources).apply r peer =
      (resources.map fun x => x.withOwner r peer).foldl (fun r x => x.store r) r := by
  have hfrom : ∀ s, SameMembers r s →
      resources.foldl (fun r x => x.report r peer) s =
        (resources.map fun x => x.withOwner r peer).foldl (fun r x => x.store r) s := by
    induction resources with
    | nil => exact fun s _ => rfl
    | cons x resources ih =>
      intro s hs
      have hstep : x.report s peer = (x.withOwner r peer).store s := by
        unfold Resource.report
        rw [withOwner_of_sameMembers hs]
      rw [List.foldl_cons, List.map_cons, List.foldl_cons, hstep]
      exact ih _ (hs.trans (sameMembers_store s _))
  exact hfrom r (.refl r)

/-- The last record of a kind and id among some. -/
def lastOf? (kind : Kind) (id : String) (resources : List Resource) : Option Resource :=
  resources.reverse.find? (·.isOf kind id)

theorem record?_storeAll (r : Registry) (resources : List Resource) (kind : Kind) (id : String) :
    (resources.foldl (fun r x => x.store r) r).record? kind id =
      (lastOf? kind id resources).or (r.record? kind id) := by
  unfold lastOf?
  induction resources generalizing r with
  | nil => rfl
  | cons x resources ih =>
    rw [List.foldl_cons, ih, record?_store, List.reverse_cons, List.find?_append, Option.or_assoc]
    refine congrArg _ ?_
    cases hx : x.isOf kind id <;> simp [hx]

theorem record?_take (r : Registry) (peer : Option Ip) (resources : List Resource) (kind : Kind)
    (id : String) :
    ((Change.take resources).apply r peer).record? kind id =
      (lastOf? kind id (resources.map fun x => x.withOwner r peer)).or (r.record? kind id) := by
  rw [apply_take, record?_storeAll]

/-! ## What a change does to a record -/

namespace Change

/-- The record that is registered under a kind and id, with its owner; the last one of several. -/
def stores? (r : Registry) (peer : Option Ip) (kind : Kind) (id : String) :
    Change → Option Resource
  | take resources => lastOf? kind id (resources.map fun x => x.withOwner r peer)
  | _ => none

/-- Is the record of the kind and id deleted? -/
def drops (kind : Kind) (id : String) : Change → Bool
  | take _ => false
  | dropContainer dropped => kind = .container ∧ id = dropped
  | dropImage dropped => kind = .image ∧ id = dropped

end Change

theorem record?_apply (r : Registry) (peer : Option Ip) (change : Change) (kind : Kind)
    (id : String) :
    (change.apply r peer).record? kind id =
      (change.stores? r peer kind id).or
        ((r.record? kind id).filter fun _ => !change.drops kind id) := by
  cases change with
  | take resources =>
    have hkept : (r.record? kind id).filter (fun _ => !(Change.take resources).drops kind id) =
        r.record? kind id := filter_of_forall (fun _ => rfl) _
    rw [hkept]
    exact record?_take r peer resources kind id
  | dropContainer dropped => exact record?_drop r .container kind dropped id
  | dropImage dropped => exact record?_drop r .image kind dropped id

end HostFleet.Report
