import HostFleet.Proofs.History
import Mathlib.Data.List.Induction

/-! # The last report stands

Which record is stored under an id follows from the history: the one that was reported last, unless it
was deleted since or went with its host.

* `Occurrence.stores?`, `Occurrence.drops`: what an accepted report does to the record of a kind and id.
* `record?_after`: the record after an event; besides reports only an eviction touches it.
* `LastReport`: a record was reported and then spared by everything that followed.
* `record?_applyAll`: the stored records are the last reports.
* `last_report_stands`: the records and the owners in every registry that grows from an empty one.
-/

set_option autoImplicit false

namespace HostFleet

open Registry Report

variable {kind : Kind} {id : String} {x : Resource}

/-! ## What an event does to a record -/

namespace Occurrence

/-- The record that an accepted report registers, with its owner as it is found at that moment. -/
def stores? (o : Occurrence) (kind : Kind) (id : String) : Option Resource :=
  match o.event with
  | .report peer payload =>
    match Reporter.change? payload with
    | .ok change => change.stores? o.registry peer kind id
    | .error _ => none
  | _ => none

/-- Is it an accepted report that the record of the kind and id is deleted? -/
def drops (o : Occurrence) (kind : Kind) (id : String) : Bool :=
  match o.event with
  | .report _ payload =>
    match Reporter.change? payload with
    | .ok change => change.drops kind id
    | .error _ => false
  | _ => false

/-- The record is neither replaced nor deleted, and it does not go with its host. -/
structure Spares (cascade : Bool) (kind : Kind) (id : String) (x : Resource) (o : Occurrence) :
    Prop where
  not_replaced : o.stores? kind id = none
  not_deleted : o.drops kind id = false
  host_kept : cascade = true → o.evicts x.host = false

/-- A record that is not replaced stays if it is not deleted and does not go with its host. -/
theorem record?_after (o : Occurrence) (h : o.registry.Consistent) (kind : Kind) (id : String) :
    o.after.record? kind id =
      (o.stores? kind id).or ((o.registry.record? kind id).filter fun x =>
        !o.drops kind id && !(o.registry.cascade && o.evicts x.host)) := by
  obtain ⟨r, event⟩ := o
  cases event with
  | datagram data now =>
    rw [filter_of_forall fun x => by simp [drops, evicts]]
    exact (Gossip.sameRecords_receive r data now).record? kind id
  | selection =>
    rw [filter_of_forall fun x => by simp [drops, evicts]]
    exact (sameRecords_selectHost r).record? kind id
  | sweep now maxAge => exact h.record?_evict now maxAge kind id
  | report peer payload =>
    simp only [after, Event.apply, stores?, drops, evicts, Bool.and_false, Bool.not_false,
      Bool.and_true]
    cases hchange : Reporter.change? payload with
    | ok change =>
      rw [(handlePayload_of_ok hchange).1]
      exact record?_apply r peer change kind id
    | error fault =>
      rw [handlePayload_of_error hchange]
      exact (filter_of_forall (fun _ => rfl) _).symm

theorem cascade_after (o : Occurrence) : o.after.cascade = o.registry.cascade := by
  obtain ⟨r, event⟩ := o
  cases event with
  | datagram data now => exact (Gossip.sameRecords_receive r data now).cascade
  | selection => exact (sameRecords_selectHost r).cascade
  | sweep now maxAge => exact cascade_evict r now maxAge
  | report peer payload => exact (sameMembers_handlePayload r peer payload).cascade

end Occurrence

theorem cascade_applyAll (r : Registry) (history : List Event) :
    (Event.applyAll r history).cascade = r.cascade := by
  induction history generalizing r with
  | nil => rfl
  | cons event history ih =>
    exact (ih (event.apply r)).trans (⟨r, event⟩ : Occurrence).cascade_after

/-! ## The last report -/

/-- The record was reported, and everything after that spared it. -/
def LastReport (cascade : Bool) (kind : Kind) (id : String) (past : List Occurrence)
    (x : Resource) : Prop :=
  ∃ before o since, past = before ++ o :: since ∧ o.stores? kind id = some x ∧
    ∀ o' ∈ since, o'.Spares cascade kind id x

/-- The last report is the one of the last event, or the one before if the last event spares it. -/
theorem lastReport_concat {cascade : Bool} {past : List Occurrence} {o : Occurrence} :
    LastReport cascade kind id (past ++ [o]) x ↔
      o.stores? kind id = some x ∨
        (LastReport cascade kind id past x ∧ o.Spares cascade kind id x) := by
  constructor
  · rintro ⟨before, reported, since, hpast, hstores, hspares⟩
    cases since using List.reverseRecOn with
    | nil =>
      have hlast := (List.append_inj' hpast rfl).2
      injection hlast with hlast
      exact .inl (hlast ▸ hstores)
    | append_singleton since last =>
      rw [← List.cons_append, ← List.append_assoc] at hpast
      obtain ⟨hpast, hlast⟩ := List.append_inj' hpast rfl
      injection hlast with hlast
      refine .inr ⟨⟨before, reported, since, hpast, hstores, ?_⟩, ?_⟩
      · exact fun o' ho' => hspares o' (List.mem_append_left [last] ho')
      · exact hlast ▸ hspares last (List.mem_append_right since List.mem_cons_self)
  · rintro (hstores | ⟨⟨before, reported, since, hpast, hstores, hspares⟩, hlast⟩)
    · exact ⟨past, o, [], rfl, hstores, fun o' ho' => absurd ho' List.not_mem_nil⟩
    · refine ⟨before, reported, since ++ [o], ?_, hstores, ?_⟩
      · rw [hpast, List.append_assoc, List.cons_append]
      · intro o' ho'
        rcases List.mem_append.1 ho' with ho' | ho'
        · exact hspares o' ho'
        · exact List.mem_singleton.1 ho' ▸ hlast

theorem record?_applyAll (cascade : Bool) (history : List Event) :
    (Event.applyAll (.empty cascade) history).record? kind id = some x ↔
      LastReport cascade kind id (occurrences (.empty cascade) history) x := by
  induction history using List.reverseRecOn generalizing x with
  | nil =>
    have hempty : (Event.applyAll (.empty cascade) []).record? kind id = none :=
      record?_empty cascade kind id
    rw [hempty]
    constructor
    · intro h
      cases h
    · rintro ⟨before, o, since, hpast, -⟩
      exact absurd hpast.symm (List.append_ne_nil_of_right_ne_nil before (List.cons_ne_nil o since))
  | append_singleton history event ih =>
    have hconsistent := (Consistent.empty cascade).applyAll history
    have hcascade : (Event.applyAll (.empty cascade) history).cascade = cascade :=
      cascade_applyAll (.empty cascade) history
    have hstep := (⟨Event.applyAll (.empty cascade) history, event⟩ : Occurrence).record?_after
      hconsistent kind id
    rw [Event.occurrences_concat, lastReport_concat, ← ih, Event.applyAll_concat]
    refine (congrArg (· = some x) hstep).to_iff.trans ?_
    rw [Option.or_eq_some_iff, Option.filter_eq_some_iff]
    refine or_congr_right ?_
    rw [hcascade]
    constructor
    · rintro ⟨hstores, hrecord, hkept⟩
      rw [Bool.and_eq_true, Bool.not_eq_true', Bool.not_eq_true', Bool.and_eq_false_imp] at hkept
      exact ⟨hrecord, hstores, hkept.1, hkept.2⟩
    · rintro ⟨hrecord, hspares⟩
      refine ⟨hspares.not_replaced, hrecord, ?_⟩
      rw [Bool.and_eq_true, Bool.not_eq_true', Bool.not_eq_true', Bool.and_eq_false_imp]
      exact ⟨hspares.not_deleted, hspares.host_kept⟩

theorem record?_evict_of_stays {r : Registry} (h : r.Consistent) (hstays : r.cascade = false)
    (now : Moment) (maxAge : Span) :
    (r.evict now maxAge).1.record? kind id = r.record? kind id := by
  rw [h.record?_evict, filter_of_forall]
  intro x
  rw [hstays]
  rfl

/-- After every history the record of a kind and id is the one reported last, unless it was deleted since
or its host was evicted since while records go with their host; where they do not, a sweep touches none.
The owner that is looked up is the host of that record, if it has one. -/
theorem last_report_stands (cascade : Bool) (history : List Event) :
    let past := occurrences (.empty cascade) history
    let r := Event.applyAll (.empty cascade) history
    (∀ kind id x, r.record? kind id = some x ↔ LastReport cascade kind id past x) ∧
    (cascade = false → ∀ now maxAge kind id,
      (r.evict now maxAge).1.record? kind id = r.record? kind id) ∧
    ∀ kind id owner, r.owner? kind id = some owner ↔
      owner ≠ "" ∧ ∃ x, LastReport cascade kind id past x ∧ x.host = owner := by
  intro past r
  have hconsistent : r.Consistent := (Consistent.empty cascade).applyAll history
  refine ⟨?_, ?_, ?_⟩
  · exact fun kind id x => record?_applyAll cascade history
  · intro hstays now maxAge kind id
    exact record?_evict_of_stays hconsistent ((cascade_applyAll _ history).trans hstays) now maxAge
  · intro kind id owner
    rw [hconsistent.owner?_eq_some_iff]
    simp only [r, past, record?_applyAll]

end HostFleet
