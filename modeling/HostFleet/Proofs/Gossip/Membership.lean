import HostFleet.Controller
import HostFleet.Proofs.History
import Mathlib.Data.List.DropRight
import Mathlib.Data.List.Induction

/-! # Membership over a history

Who is stored, and what is stored of it, follows from what was heard.

* `Occurrence.heartbeat?`, `Occurrence.answer?`: what an event says about an address, and its answer.
* `Fate`: the four things that an event can do to an address; `Occurrence.fate`: nothing else happens.
* `sinceEviction`: the part of a history behind the last sweep that evicted an address.
* `Told`: an endpoint is what a history tells of it.
* `Follows`: an address is stored as `Told`, or not at all if nothing told of it. `Fate.follows` is the
  step and `follows_applyAll` the run.
* `members_follow_history`: the endpoints of a controller after every history.
-/

set_option autoImplicit false

namespace HostFleet

open Registry

/-! ## What an event says about an address -/

namespace Occurrence

/-- The well-formed heartbeat of an address, if one arrives. -/
def heartbeat? (a : String) (o : Occurrence) : Option (GossipCommand × Heartbeat) :=
  match o.event with
  | .datagram data _ => (Gossip.announced? data).filter fun found => found.2.address == a
  | _ => none

/-- The answer to a datagram about an address, and when it arrives. -/
def answer? (a : String) (o : Occurrence) : Option (HeartbeatOutcome × Moment) :=
  match o.event with
  | .datagram data now =>
    if Gossip.subject? data = some a then
      (Gossip.receive o.registry data now).2.map fun outcome => (outcome, now)
    else none
  | _ => none

/-- Is it a datagram that is answered by a join of the address? -/
def joins (a : String) (o : Occurrence) : Bool := (o.answer? a).any (·.1 == .joined)

end Occurrence

/-! ## What an event does to an address -/

/-- What becomes of an address in an event: the endpoint before and the endpoint after. -/
inductive Fate (a : String) (o : Occurrence) : Option Endpoint → Option Endpoint → Prop where
  | evicted {before : Option Endpoint} (gone : o.evicts a = true) (unheard : o.answer? a = none) :
      Fate a o before none
  | refreshed {e : Endpoint} {now : Moment} (kept : o.evicts a = false)
      (answer : o.answer? a = some (.refreshed, now)) :
      Fate a o (some e) (some { e with lastSeen := now })
  | joined {command : GossipCommand} {h : Heartbeat} {now : Moment} (kept : o.evicts a = false)
      (said : o.heartbeat? a = some (command, h)) (answer : o.answer? a = some (.joined, now)) :
      Fate a o none (some ⟨a, h.hostname, command.role, h.status, now, .peer⟩)
  | untouched {before : Option Endpoint} (kept : o.evicts a = false)
      (unheard : o.answer? a = none) (unsaid : before = none → o.heartbeat? a = none) :
      Fate a o before before

/-- A datagram about another address, or about none, leaves the address alone. -/
theorem fate_of_subject_ne (r : Registry) (now : Moment) {data : Bytes} {a : String}
    (h : Gossip.subject? data ≠ some a) :
    Fate a ⟨r, .datagram data now⟩ (r.endpoints.get? a)
      ((Gossip.receive r data now).1.endpoints.get? a) := by
  rw [Gossip.get?_receive_of_ne r now h]
  refine .untouched rfl ?_ fun _ => ?_
  · exact if_neg h
  · refine Option.filter_eq_none_iff.2 fun found hsaid ha => h ?_
    rw [Gossip.subject?_of_announced hsaid, beq_iff_eq.1 ha]

theorem fate_announced (r : Registry) (now : Moment) {data : Bytes} {command : GossipCommand}
    {h : Heartbeat} (hsaid : Gossip.announced? data = some (command, h))
    (hr : Gossip.receive r data now =
      ((r.recordHeartbeat h.address h.hostname command.role h.status now).1,
        some (r.recordHeartbeat h.address h.hostname command.role h.status now).2)) :
    Fate h.address ⟨r, .datagram data now⟩ (r.endpoints.get? h.address)
      ((Gossip.receive r data now).1.endpoints.get? h.address) := by
  have hsubject := Gossip.subject?_of_announced hsaid
  have hheard : (⟨r, .datagram data now⟩ : Occurrence).heartbeat? h.address =
      some (command, h) := by
    simp only [Occurrence.heartbeat?, hsaid]
    exact Option.filter_some_pos (beq_self_eq_true _)
  cases he : r.endpoints.get? h.address with
  | some e =>
    rw [recordHeartbeat_of_get?_eq_some he] at hr
    have hafter : (r.refresh h.address now).endpoints.get? h.address =
        some { e with lastSeen := now } := by
      rw [get?_refresh, if_pos rfl, he]
      rfl
    rw [hr, hafter]
    refine .refreshed rfl ?_
    simp only [Occurrence.answer?, hsubject, hr]
    rfl
  | none =>
    rw [recordHeartbeat_of_get?_eq_none he] at hr
    rw [hr, get?_addEndpoint, if_pos rfl]
    refine .joined rfl hheard ?_
    simp only [Occurrence.answer?, hsubject, hr]
    rfl

theorem fate_suspected (r : Registry) (now : Moment) {data : Bytes} {a : String}
    (hunsaid : Gossip.announced? data = none) (hsuspect : Gossip.suspected? data = some a)
    (hr : Gossip.receive r data now =
      if r.endpoints.contains a then (r.refresh a now, some .refreshed) else (r, none)) :
    Fate a ⟨r, .datagram data now⟩ (r.endpoints.get? a)
      ((Gossip.receive r data now).1.endpoints.get? a) := by
  have hsubject := (Gossip.subject?_of_not_announced hunsaid).trans hsuspect
  cases he : r.endpoints.get? a with
  | some e =>
    rw [if_pos (Book.contains_iff.2 ⟨e, he⟩)] at hr
    have hafter : (r.refresh a now).endpoints.get? a = some { e with lastSeen := now } := by
      rw [get?_refresh, if_pos rfl, he]
      rfl
    rw [hr, hafter]
    refine .refreshed rfl ?_
    simp only [Occurrence.answer?, hsubject, hr]
    rfl
  | none =>
    have hnot : ¬ r.endpoints.contains a = true := by
      rw [Book.contains, he]
      exact Bool.false_ne_true
    rw [if_neg hnot] at hr
    rw [hr, he]
    refine .untouched rfl ?_ fun _ => ?_
    · simp only [Occurrence.answer?, hsubject, hr]
      rfl
    · simp only [Occurrence.heartbeat?, hunsaid]
      rfl

theorem fate_datagram (r : Registry) (data : Bytes) (now : Moment) (a : String) :
    Fate a ⟨r, .datagram data now⟩ (r.endpoints.get? a)
      ((Gossip.receive r data now).1.endpoints.get? a) := by
  by_cases hsubject : Gossip.subject? data = some a
  · rcases Gossip.receive_cases r data now with
      ⟨command, h, hsaid, hr⟩ | ⟨hunsaid, b, hsuspect, hr⟩ | ⟨hunsaid, hunsuspect, -⟩
    · rw [Gossip.subject?_of_announced hsaid] at hsubject
      injection hsubject with hsubject
      exact hsubject ▸ fate_announced r now hsaid hr
    · rw [Gossip.subject?_of_not_announced hunsaid, hsuspect] at hsubject
      injection hsubject with hsubject
      exact hsubject ▸ fate_suspected r now hunsaid hsuspect hr
    · rw [Gossip.subject?_of_not_announced hunsaid, hunsuspect] at hsubject
      cases hsubject
  · exact fate_of_subject_ne r now hsubject

theorem fate_sweep (r : Registry) (now : Moment) (maxAge : Span) (a : String) :
    Fate a ⟨r, .sweep now maxAge⟩ (r.endpoints.get? a)
      ((r.evict now maxAge).1.endpoints.get? a) := by
  rw [get?_evict]
  by_cases hgone : (r.evict now maxAge).2.any (·.address == a) = true
  · rw [if_pos hgone]
    exact .evicted hgone rfl
  · rw [if_neg hgone]
    exact .untouched (Bool.eq_false_iff.2 hgone) rfl fun _ => rfl

/-- An event evicts an address, refreshes it, lets it join, or leaves it alone. -/
theorem Occurrence.fate (o : Occurrence) (a : String) :
    Fate a o (o.registry.endpoints.get? a) (o.after.endpoints.get? a) := by
  obtain ⟨r, event⟩ := o
  cases event with
  | datagram data now => exact fate_datagram r data now a
  | sweep now maxAge => exact fate_sweep r now maxAge a
  | report peer payload =>
    have hsame := (Report.sameMembers_handlePayload r peer payload).endpoints
    have hafter : (⟨r, .report peer payload⟩ : Occurrence).after.endpoints.get? a =
        r.endpoints.get? a := congrArg (·.get? a) hsame
    rw [hafter]
    exact .untouched rfl rfl fun _ => rfl
  | selection =>
    have hafter : (⟨r, .selection⟩ : Occurrence).after.endpoints.get? a = r.endpoints.get? a :=
      congrArg (·.get? a) (endpoints_selectHost r)
    rw [hafter]
    exact .untouched rfl rfl fun _ => rfl

/-! ## What a history tells of an address -/

/-- What follows the last sweep that evicted the address; everything, if none did. -/
def sinceEviction (a : String) (past : List Occurrence) : List Occurrence :=
  past.rtakeWhile fun o => !o.evicts a

def firstHeartbeat? (a : String) (past : List Occurrence) : Option (GossipCommand × Heartbeat) :=
  past.findSome? (·.heartbeat? a)

/-- When the last answered datagram about the address arrived. -/
def lastHeard? (a : String) (past : List Occurrence) : Option Moment :=
  (past.reverse.findSome? (·.answer? a)).map (·.2)

def joinCount (a : String) (past : List Occurrence) : Nat := past.countP (·.joins a)

/-- The endpoint is what the history tells of its address. -/
structure Told (a : String) (past : List Occurrence) (e : Endpoint) : Prop where
  address : e.address = a
  lifetime : e.lifetime = .peer
  /-- Hostname, role and status are those of the first heartbeat since the last eviction. -/
  first : ∃ command h, firstHeartbeat? a (sinceEviction a past) = some (command, h) ∧
    e.hostname = h.hostname ∧ e.role = command.role ∧ e.status = h.status
  lastSeen : lastHeard? a past = some e.lastSeen
  joined_once : joinCount a (sinceEviction a past) = 1

/-- What is stored of an address follows from its history. -/
def Follows (a : String) (past : List Occurrence) : Option Endpoint → Prop
  | some e => Told a past e
  | none => firstHeartbeat? a (sinceEviction a past) = none ∧ joinCount a (sinceEviction a past) = 0

section
variable {a : String} {o : Occurrence}

theorem sinceEviction_concat_of_evicts (past : List Occurrence) (h : o.evicts a = true) :
    sinceEviction a (past ++ [o]) = [] := by
  unfold sinceEviction
  rw [List.rtakeWhile_concat, h]
  rfl

theorem sinceEviction_concat (past : List Occurrence) (h : o.evicts a = false) :
    sinceEviction a (past ++ [o]) = sinceEviction a past ++ [o] := by
  unfold sinceEviction
  rw [List.rtakeWhile_concat, h]
  rfl

theorem firstHeartbeat?_concat (past : List Occurrence) :
    firstHeartbeat? a (past ++ [o]) = (firstHeartbeat? a past).or (o.heartbeat? a) := by
  unfold firstHeartbeat?
  rw [List.findSome?_append, List.findSome?_singleton]

theorem lastHeard?_concat (past : List Occurrence) :
    lastHeard? a (past ++ [o]) = ((o.answer? a).map (·.2)).or (lastHeard? a past) := by
  unfold lastHeard?
  rw [List.reverse_append, List.findSome?_append, Option.map_or]
  simp

theorem joinCount_concat (past : List Occurrence) :
    joinCount a (past ++ [o]) = joinCount a past + if o.joins a then 1 else 0 := by
  unfold joinCount
  rw [List.countP_append, List.countP_singleton]

theorem joins_of_answer? {answer : Option (HeartbeatOutcome × Moment)} (h : o.answer? a = answer) :
    o.joins a = answer.any (·.1 == .joined) := by
  unfold Occurrence.joins
  rw [h]

/-- A stored endpoint is told of as before, up to the time, while it neither goes nor joins again. -/
theorem Told.concat {past : List Occurrence} {e : Endpoint} (h : Told a past e)
    (kept : o.evicts a = false) (hjoins : o.joins a = false) {seen : Moment}
    (hseen : lastHeard? a (past ++ [o]) = some seen) :
    Told a (past ++ [o]) { e with lastSeen := seen } := by
  obtain ⟨command, heartbeat, hfirst, hsame⟩ := h.first
  refine ⟨h.address, h.lifetime, ⟨command, heartbeat, ?_, hsame⟩, hseen, ?_⟩
  · rw [sinceEviction_concat past kept, firstHeartbeat?_concat, hfirst]
    rfl
  · rw [sinceEviction_concat past kept, joinCount_concat, h.joined_once, hjoins]
    rfl

/-- The step: an address that followed its history still does so after one more event. -/
theorem Fate.follows {before after : Option Endpoint} (hfate : Fate a o before after)
    {past : List Occurrence} (h : Follows a past before) : Follows a (past ++ [o]) after := by
  cases hfate with
  | evicted gone unheard =>
    unfold Follows
    rw [sinceEviction_concat_of_evicts past gone]
    exact ⟨rfl, rfl⟩
  | @refreshed e now kept answer =>
    refine Told.concat h kept (joins_of_answer? answer) ?_
    rw [lastHeard?_concat, answer]
    rfl
  | @joined command heartbeat now kept said answer =>
    have hjoins : o.joins a = true := joins_of_answer? answer
    -- nothing was heard since the last eviction, so this heartbeat is the first
    refine ⟨rfl, rfl, ⟨command, heartbeat, ?_, rfl, rfl, rfl⟩, ?_, ?_⟩
    · rw [sinceEviction_concat past kept, firstHeartbeat?_concat, h.1, said]
      rfl
    · rw [lastHeard?_concat, answer]
      rfl
    · rw [sinceEviction_concat past kept, joinCount_concat, h.2, hjoins]
      rfl
  | untouched kept unheard unsaid =>
    have hjoins : o.joins a = false := joins_of_answer? unheard
    cases before with
    | none =>
      unfold Follows
      rw [sinceEviction_concat past kept, firstHeartbeat?_concat, joinCount_concat, h.1, h.2,
        unsaid rfl, hjoins]
      exact ⟨rfl, rfl⟩
    | some e =>
      refine Told.concat h kept hjoins ?_
      rw [lastHeard?_concat, unheard]
      exact h.lastSeen

/-- The run: an address that is not stored at the beginning follows its history ever after. -/
theorem follows_applyAll {r : Registry} (h : r.endpoints.get? a = none) (history : List Event) :
    Follows a (occurrences r history) ((Event.applyAll r history).endpoints.get? a) := by
  induction history using List.reverseRecOn with
  | nil =>
    have hnone : (Event.applyAll r []).endpoints.get? a = none := h
    rw [hnone]
    exact ⟨rfl, rfl⟩
  | append_singleton history event ih =>
    rw [Event.occurrences_concat, Event.applyAll_concat]
    exact ((⟨Event.applyAll r history, event⟩ : Occurrence).fate a).follows ih

end

/-! ## The controller's own endpoints -/

theorem Registry.Consistent.kept_of_local {r : Registry} (h : r.Consistent) {a : String}
    {own : Endpoint} (hown : r.endpoints.get? a = some own) (hlocal : own.lifetime = .local)
    (event : Event) : (⟨r, event⟩ : Occurrence).evicts a = false := by
  cases event with
  | datagram _ _ => rfl
  | report _ _ => rfl
  | selection => rfl
  | sweep now maxAge =>
    refine List.any_eq_false.2 fun e he haddress => ?_
    obtain ⟨hstored, hstale⟩ := List.mem_filter.1 he
    obtain ⟨name, hname⟩ := Book.mem_values_iff.1 hstored
    have ha : name = a := (h.indexed.address_eq hname).symm.trans (beq_iff_eq.1 haddress)
    rw [ha, hown] at hname
    injection hname with hname
    rw [← hname, Endpoint.isStale, Endpoint.isLocal, hlocal] at hstale
    exact Bool.false_ne_true hstale

theorem Fate.kept {a : String} {o : Occurrence} {e : Endpoint} {after : Option Endpoint}
    (hfate : Fate a o (some e) after) (hkept : o.evicts a = false) :
    ∃ seen, after = some { e with lastSeen := seen } := by
  cases hfate with
  | evicted gone unheard =>
    rw [hkept] at gone
    cases gone
  | @refreshed e now kept answer => exact ⟨now, rfl⟩
  | untouched kept unheard unsaid => exact ⟨e.lastSeen, rfl⟩

theorem own_applyAll {r : Registry} (h : r.Consistent) {a : String} {own : Endpoint}
    (hown : r.endpoints.get? a = some own) (hlocal : own.lifetime = .local)
    (history : List Event) :
    ∃ seen, (Event.applyAll r history).endpoints.get? a = some { own with lastSeen := seen } := by
  induction history using List.reverseRecOn with
  | nil => exact ⟨own.lastSeen, hown⟩
  | append_singleton history event ih =>
    obtain ⟨seen, hseen⟩ := ih
    rw [Event.applyAll_concat]
    have hkept := (h.applyAll history).kept_of_local hseen hlocal event
    have hfate := (⟨Event.applyAll r history, event⟩ : Occurrence).fate a
    rw [hseen] at hfate
    exact hfate.kept hkept

/-- A new controller stores its own endpoints and no other; of one address the proxy is stored. -/
theorem Controller.get?_registerSelf (cascade : Bool) (settings : Settings) (hostname : String)
    (started : Moment) (a : String) :
    (registerSelf (.empty cascade) settings hostname started).endpoints.get? a =
      if a = settings.proxyAddr then
        some (ownEndpoint settings hostname started settings.proxyAddr .controllerProxy)
      else if a = settings.internalAddr then
        some (ownEndpoint settings hostname started settings.internalAddr .controllerInternal)
      else none := by
  unfold registerSelf
  rw [get?_addEndpoint, get?_addEndpoint]
  rfl

theorem Controller.local_of_registerSelf {cascade : Bool} {settings : Settings} {hostname : String}
    {started : Moment} {a : String} {own : Endpoint}
    (h : (registerSelf (.empty cascade) settings hostname started).endpoints.get? a = some own) :
    own.lifetime = .local := by
  rw [get?_registerSelf] at h
  split at h
  · injection h with h
    rw [← h]
    rfl
  · split at h
    · injection h with h
      rw [← h]
      rfl
    · cases h

theorem Controller.registerSelf_consistent (cascade : Bool) (settings : Settings)
    (hostname : String) (started : Moment) :
    (registerSelf (.empty cascade) settings hostname started).Consistent :=
  ((Consistent.empty cascade).addEndpoint _).addEndpoint _

/-- The controller's own endpoints stay as they were registered, up to their time. Any other address is
stored if and only if a heartbeat of it arrived since it was last evicted, and then as its history tells. -/
theorem members_follow_history (cascade : Bool) (settings : Settings) (hostname : String)
    (started : Moment) (history : List Event) :
    let start := Controller.registerSelf (.empty cascade) settings hostname started
    let past := occurrences start history
    let r := Event.applyAll start history
    (∀ a own, start.endpoints.get? a = some own → own.lifetime = .local ∧
      ∃ seen, r.endpoints.get? a = some { own with lastSeen := seen }) ∧
    ∀ a, start.endpoints.get? a = none →
      ((∃ e, r.endpoints.get? a = some e) ↔
        ∃ o ∈ sinceEviction a past, (o.heartbeat? a).isSome = true) ∧
      ∀ e, r.endpoints.get? a = some e → Told a past e := by
  intro start past r
  refine ⟨?_, ?_⟩
  · intro a own hown
    have hlocal := Controller.local_of_registerSelf hown
    exact ⟨hlocal, own_applyAll
      (Controller.registerSelf_consistent cascade settings hostname started) hown hlocal history⟩
  · intro a ha
    have hfollows : Follows a past (r.endpoints.get? a) := follows_applyAll ha history
    have hheard : (∃ o ∈ sinceEviction a past, (o.heartbeat? a).isSome = true) ↔
        (firstHeartbeat? a (sinceEviction a past)).isSome = true := by
      unfold firstHeartbeat?
      rw [List.findSome?_isSome_iff]
    rw [hheard]
    cases he : r.endpoints.get? a with
    | none =>
      rw [he] at hfollows
      refine ⟨?_, ?_⟩
      · rw [hfollows.1]
        simp
      · intro e h
        cases h
    | some e =>
      rw [he] at hfollows
      obtain ⟨command, heartbeat, hfirst, -⟩ := hfollows.first
      refine ⟨?_, ?_⟩
      · rw [hfirst]
        simp
      · intro e' h
        injection h with h
        exact h ▸ hfollows

end HostFleet
