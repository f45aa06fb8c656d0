import HostFleet.Proofs.Gossip.Membership
import HostFleet.Proofs.Report.Independence

/-! # Owners of records while hosts are evicted

The owner of a record that names no host is looked up in one step and stored with the record in another.
Where records go with their host, what is stored belongs to a host that is stored too, unless the host
was evicted in between.

* `Move`: what a step of a shared registry is; `Run`: steps with the log of them. `reaches_iff_run`.
* `moves_turn_iff`: what a connection does in its turn.
* `Moves.record?`, `Moves.contains`: a record goes with its host or stays, and an endpoint stays.
* `LastUnnamed`: a record was last reported without a host.
* `owner_known_unless_evicted_between`: the owner of such a record is stored, unless it was evicted.
* `exists_orphan_of_sweep_between`: a sweep in between does leave a record without its host.
-/

set_option autoImplicit false

namespace HostFleet

namespace Report

open Registry

variable {s t u : Shared} {i : Nat} {c : Reporter} {task : Task} {tasks : List Task}
  {kind : Kind} {id : String} {x y : Resource}

/-! ## Steps and what they are -/

/-- Does the task store or remove the record of the kind and id? -/
def Task.touches (kind : Kind) (id : String) : Task → Bool
  | own _ => false
  | store x => x.isOf kind id
  | dropImage dropped => kind = .image ∧ id = dropped
  | dropContainer dropped => kind = .container ∧ id = dropped
  | acknowledge => false

/-- The records that a change takes over. -/
def Change.resources : Change → List Resource
  | take resources => resources
  | _ => []

theorem Change.eq_take {change : Change} {resources : List Resource}
    (h : change.resources = x :: resources) : change = take (x :: resources) := by
  cases change with
  | take _ => exact congrArg take h
  | dropImage _ => cases h
  | dropContainer _ => cases h

namespace Shared

/-- What happens in a step. -/
inductive Move where
  /-- A connection carries out its next task, or reads its next payload if it has none. -/
  | turn (i : Nat) (task : Option Task)
  /-- A datagram or a sweep. -/
  | other (o : Occurrence)

namespace Move

def isTurnOf (i : Nat) : Move → Bool
  | turn j _ => j == i
  | other _ => false

def touches (kind : Kind) (id : String) : Move → Bool
  | turn _ task => task.any (·.touches kind id)
  | other _ => false

def evicts (m : Move) (address : String) : Bool :=
  match m with
  | turn _ _ => false
  | other o => o.evicts address

end Move

inductive Moves : Shared → Move → Shared → Prop where
  | turn {s : Shared} {i : Nat} {c c' : Reporter} {r : Registry}
      (found : s.reporters[i]? = some c) (taken : c.step? s.registry = some (r, c')) :
      Moves s (.turn i c.tasks.head?) ⟨r, s.reporters.set i c'⟩
  | datagram (s : Shared) (data : Bytes) (now : Moment) :
      Moves s (.other ⟨s.registry, .datagram data now⟩)
        { s with registry := (Gossip.receive s.registry data now).1 }
  | sweep (s : Shared) (now : Moment) (maxAge : Span) :
      Moves s (.other ⟨s.registry, .sweep now maxAge⟩)
        { s with registry := (s.registry.evict now maxAge).1 }

theorem step_iff : Step s t ↔ ∃ m, Moves s m t := by
  constructor
  · rintro (⟨⟨hfound, htaken⟩⟩ | ⟨data, now⟩ | ⟨now, maxAge⟩)
    · exact ⟨_, .turn hfound htaken⟩
    · exact ⟨_, .datagram s data now⟩
    · exact ⟨_, .sweep s now maxAge⟩
  · rintro ⟨m, hfound, htaken⟩
    · exact .report (.of hfound htaken)
    · exact .datagram s _ _
    · exact .sweep s _ _

/-- Any number of steps, and the log of what they are. -/
inductive Run : Shared → List Move → Shared → Prop where
  | nil (s : Shared) : Run s [] s
  | cons {s t u : Shared} {m : Move} {log : List Move} (move : Moves s m t) (rest : Run t log u) :
      Run s (m :: log) u

namespace Run

variable {log log' : List Move}

theorem cons_iff {m : Move} : Run s (m :: log) u ↔ ∃ t, Moves s m t ∧ Run t log u := by
  constructor
  · rintro (_ | ⟨hmove, hrest⟩)
    exact ⟨_, hmove, hrest⟩
  · rintro ⟨t, hmove, hrest⟩
    exact .cons hmove hrest

theorem append_iff : Run s (log ++ log') u ↔ ∃ t, Run s log t ∧ Run t log' u := by
  constructor
  · intro h
    induction log generalizing s with
    | nil => exact ⟨s, .nil s, h⟩
    | cons m log ih =>
      obtain ⟨s', hmove, hrest⟩ := cons_iff.1 h
      obtain ⟨t, hlog, hlog'⟩ := ih hrest
      exact ⟨t, .cons hmove hlog, hlog'⟩
  · rintro ⟨t, hlog, hlog'⟩
    induction hlog with
    | nil => exact hlog'
    | cons hmove _ ih => exact .cons hmove (ih hlog')

/-- What every step of the log keeps holds in the end if it does at the beginning. -/
theorem keeps {P : Shared → Prop} (h : Run s log t)
    (hstep : ∀ m ∈ log, ∀ s t, P s → Moves s m t → P t) (hs : P s) : P t := by
  induction h with
  | nil => exact hs
  | cons hmove _ ih =>
    exact ih (fun m hm => hstep m (List.mem_cons_of_mem _ hm)) (hstep _ List.mem_cons_self _ _ hs hmove)

end Run

/-- The states that are reached are those at the end of a log. -/
theorem reaches_iff_run : Reaches Step s t ↔ ∃ log, Run s log t := by
  constructor
  · intro h
    induction h with
    | refl => exact ⟨[], .nil s⟩
    | tail _ hstep ih =>
      obtain ⟨log, hlog⟩ := ih
      obtain ⟨m, hmove⟩ := step_iff.1 hstep
      exact ⟨log ++ [m], Run.append_iff.2 ⟨_, hlog, .cons hmove (.nil _)⟩⟩
  · rintro ⟨log, hlog⟩
    induction hlog with
    | nil => exact .refl _
    | cons hmove _ ih => exact Reaches.head (step_iff.2 ⟨_, hmove⟩) ih

/-! ## Turns -/

/-- In its turn a connection carries out the first of its tasks. -/
theorem moves_turn_iff : Moves s (.turn i (some task)) t ↔
    ∃ c tasks, s.reporters[i]? = some c ∧ c.tasks = task :: tasks ∧
      t = ⟨(c.perform s.registry task tasks).1,
        s.reporters.set i (c.perform s.registry task tasks).2⟩ := by
  constructor
  · intro h
    generalize hm : Move.turn i (some task) = m at h
    cases h with
    | datagram => cases hm
    | sweep => cases hm
    | @turn j c c' r hfound htaken =>
      injection hm with hj hhead
      subst hj
      obtain ⟨tasks, htasks⟩ := List.head?_eq_some_iff.1 hhead.symm
      refine ⟨c, tasks, hfound, htasks, ?_⟩
      unfold Reporter.step? at htaken
      rw [htasks] at htaken
      injection htaken with htaken
      rw [htaken]
  · rintro ⟨c, tasks, hfound, htasks, rfl⟩
    have htaken : c.step? s.registry = some (c.perform s.registry task tasks) := by
      unfold Reporter.step?
      rw [htasks]
    have hmove := Moves.turn hfound htaken
    rw [htasks] at hmove
    exact hmove

theorem Moves.reporters_of_not_turn {m : Move} (h : Moves s m t) (hm : m.isTurnOf i = false) :
    t.reporters[i]? = s.reporters[i]? := by
  cases h with
  | datagram => rfl
  | sweep => rfl
  | @turn j c c' r hfound htaken =>
    have hne : j ≠ i := fun hj => Bool.false_ne_true (hm.symm.trans (beq_iff_eq.2 hj))
    exact List.getElem?_set_ne hne

theorem getElem?_reporters_set (hfound : s.reporters[i]? = some c) (c' : Reporter) :
    (s.reporters.set i c')[i]? = some c' := by
  obtain ⟨hi, -⟩ := List.getElem?_eq_some_iff.1 hfound
  exact List.getElem?_set_self hi

theorem exists_moves_begin {peer : Option Ip} {payload : Bytes} {waiting : List Bytes}
    {resources : List Resource} (hfound : s.reporters[i]? = some (.start peer (payload :: waiting)))
    (hchange : Reporter.change? payload = .ok (.take (x :: resources))) (hx : x.host = "") :
    ∃ t c tasks, Moves s (.turn i none) t ∧ t.registry = s.registry ∧
      t.reporters[i]? = some c ∧ c.peer = peer ∧ c.tasks = .own x :: tasks := by
  have htaken : (Reporter.start peer (payload :: waiting)).step? s.registry =
      some (s.registry, (Reporter.start peer (payload :: waiting)).beginPayload payload waiting) :=
    rfl
  have hempty := String.isEmpty_iff.2 hx
  have hbegin : Task.begin x = .own x := if_pos hempty
  refine ⟨_, _, resources.map Task.begin ++ [.acknowledge], .turn hfound htaken, rfl,
    getElem?_reporters_set hfound _, ?_, ?_⟩
  · simp only [Reporter.beginPayload, hchange]
    rfl
  · simp only [Reporter.beginPayload, hchange, Task.ofChange, List.map_cons, hbegin]
    rfl

def Awaits (i : Nat) (y : Resource) (s : Shared) : Prop :=
  ∃ c tasks, s.reporters[i]? = some c ∧ c.tasks = .store y :: tasks

/-- A record whose owner is looked up is stored next, with that owner. -/
theorem moves_own (h : Moves s (.turn i (some (.own x))) t) :
    ∃ peer, t.registry = s.registry ∧ t.Awaits i (x.withOwner s.registry peer) := by
  obtain ⟨c, tasks, hfound, htasks, rfl⟩ := moves_turn_iff.1 h
  exact ⟨c.peer, rfl, _, tasks, getElem?_reporters_set hfound _, rfl⟩

theorem exists_moves_own (hfound : s.reporters[i]? = some c) (htasks : c.tasks = .own x :: tasks) :
    ∃ t, Moves s (.turn i (some (.own x))) t ∧ t.registry = s.registry ∧
      t.Awaits i (x.withOwner s.registry c.peer) := by
  refine ⟨_, moves_turn_iff.2 ⟨c, tasks, hfound, htasks, rfl⟩, rfl, ?_⟩
  exact ⟨_, tasks, getElem?_reporters_set hfound _, rfl⟩

theorem Awaits.of_not_turn {m : Move} (hs : s.Awaits i y) (h : Moves s m t)
    (hm : m.isTurnOf i = false) : t.Awaits i y := by
  obtain ⟨c, tasks, hfound, htasks⟩ := hs
  exact ⟨c, tasks, (h.reporters_of_not_turn hm).trans hfound, htasks⟩

theorem Awaits.moves_store (hs : s.Awaits i y) (h : Moves s (.turn i (some (.store x))) t) :
    x = y ∧ t.registry = y.store s.registry := by
  obtain ⟨c, tasks, hfound, htasks⟩ := hs
  obtain ⟨c', tasks', hfound', htasks', rfl⟩ := moves_turn_iff.1 h
  rw [hfound] at hfound'
  injection hfound' with hc
  rw [← hc, htasks] at htasks'
  injection htasks' with hstore
  injection hstore with hxy
  exact ⟨hxy.symm, by rw [hxy]; rfl⟩

theorem Awaits.exists_moves_store (hs : s.Awaits i y) :
    ∃ t, Moves s (.turn i (some (.store y))) t ∧ t.registry = y.store s.registry := by
  obtain ⟨c, tasks, hfound, htasks⟩ := hs
  exact ⟨_, moves_turn_iff.2 ⟨c, tasks, hfound, htasks, rfl⟩, rfl⟩

theorem host_withOwner (r : Registry) (peer : Option Ip) (hx : x.host = "") :
    (x.withOwner r peer).host = Resource.ownerFor r peer := by
  have hempty := String.isEmpty_iff.2 hx
  unfold Resource.withOwner
  rw [if_pos hempty]
  cases x <;> rfl

/-! ## The registry after a step -/

theorem record?_perform (c : Reporter) (r : Registry) (tasks : List Task)
    (h : task.touches kind id = false) :
    (c.perform r task tasks).1.record? kind id = r.record? kind id := by
  cases task with
  | own x => rfl
  | acknowledge => rfl
  | store x =>
    have hother : x.isOf kind id = false := h
    simp only [Reporter.perform, record?_store, hother]
    rfl
  | dropImage dropped =>
    refine (record?_drop r .image kind dropped id).trans (filter_of_forall (fun _ => ?_) _)
    exact congrArg not h
  | dropContainer dropped =>
    refine (record?_drop r .container kind dropped id).trans (filter_of_forall (fun _ => ?_) _)
    exact congrArg not h

theorem perform_eq_run (c : Reporter) (r : Registry) (task : Task) (tasks : List Task) :
    ∃ ops, (c.perform r task tasks).1 = r.run ops := by
  cases task with
  | own x => exact ⟨[], rfl⟩
  | acknowledge => exact ⟨[], rfl⟩
  | store x => exact ⟨[Event.storing x], Event.store_eq_apply r x⟩
  | dropImage dropped => exact ⟨[.unregisterImage dropped], rfl⟩
  | dropContainer dropped => exact ⟨[.unregisterContainer dropped], rfl⟩

theorem Moves.exists_run {m : Move} (h : Moves s m t) :
    ∃ ops, t.registry = s.registry.run ops := by
  cases h with
  | datagram data now => exact Event.receive_eq_run s.registry data now
  | sweep now maxAge => exact ⟨[.evict now maxAge], rfl⟩
  | @turn i c c' r hfound htaken =>
    rcases Reporter.step?_cases htaken with ⟨task, tasks, -, hdone⟩ | ⟨-, -, -, -, hr, -⟩
    · obtain ⟨ops, hops⟩ := perform_eq_run c s.registry task tasks
      rw [hdone] at hops
      exact ⟨ops, hops⟩
    · exact ⟨[], hr⟩

/-- The books agree, and records go with their host. -/
structure Cascades (r : Registry) : Prop where
  consistent : r.Consistent
  cascade : r.cascade = true

theorem cascade_apply (r : Registry) (op : Operation) : (r.apply op).cascade = r.cascade := by
  cases op with
  | add e => rfl
  | refresh address now => rfl
  | heartbeat address hostname role status now =>
    exact (sameRecords_recordHeartbeat r address hostname role status now).cascade
  | evict now maxAge => exact cascade_evict r now maxAge
  | select => exact (sameRecords_selectHost r).cascade
  | registerContainer id record => rfl
  | unregisterContainer id => rfl
  | registerImage id record => rfl
  | unregisterImage id => rfl

theorem Cascades.run {r : Registry} (h : Cascades r) (ops : List Operation) :
    Cascades (r.run ops) := by
  induction ops generalizing r with
  | nil => exact h
  | cons op ops ih => exact ih ⟨h.consistent.apply op, (cascade_apply r op).trans h.cascade⟩

theorem Moves.cascades {m : Move} (h : Moves s m t) (hs : Cascades s.registry) :
    Cascades t.registry := by
  obtain ⟨ops, hops⟩ := h.exists_run
  rw [hops]
  exact hs.run ops

theorem Run.cascades {log : List Move} (h : Run s log t) (hs : Cascades s.registry) :
    Cascades t.registry :=
  h.keeps (P := fun s => Cascades s.registry) (fun _ _ _ _ hs hmove => hmove.cascades hs) hs

/-- A record that is neither reported nor deleted stays, unless its host is evicted. -/
theorem Moves.record? {m : Move} (h : Moves s m t) (hs : Cascades s.registry)
    (hm : m.touches kind id = false) :
    t.registry.record? kind id =
      (s.registry.record? kind id).filter fun x => !m.evicts x.host := by
  cases h with
  | datagram data now =>
    have hrecord := (Gossip.sameRecords_receive s.registry data now).record? kind id
    exact hrecord.trans (filter_of_forall (fun _ => rfl) _).symm
  | sweep now maxAge =>
    have hswept := hs.consistent.record?_evict now maxAge kind id
    simp only [hs.cascade, Bool.true_and] at hswept
    exact hswept
  | @turn i c c' r hfound htaken =>
    refine Eq.trans ?_ (filter_of_forall (fun _ => rfl) _).symm
    rcases Reporter.step?_cases htaken with ⟨task, tasks, htasks, hdone⟩ | ⟨-, -, -, -, hr, -⟩
    · rw [htasks] at hm
      have hrecord := record?_perform c s.registry tasks hm
      rw [hdone] at hrecord
      exact hrecord
    · rw [hr]

theorem Moves.contains {m : Move} {a : String} (h : Moves s m t) (hm : m.evicts a = false)
    (ha : s.registry.endpoints.contains a = true) : t.registry.endpoints.contains a = true := by
  obtain ⟨e, he⟩ := Book.contains_iff.1 ha
  have hother : ∀ o : Occurrence, o.registry = s.registry → o.evicts a = false →
      o.after.endpoints.contains a = true := by
    intro o ho hkept
    have hfate := o.fate a
    rw [ho, he] at hfate
    obtain ⟨seen, hseen⟩ := hfate.kept hkept
    exact Book.contains_iff.2 ⟨_, hseen⟩
  cases h with
  | datagram data now => exact hother ⟨s.registry, .datagram data now⟩ rfl hm
  | sweep now maxAge => exact hother ⟨s.registry, .sweep now maxAge⟩ rfl hm
  | @turn i c c' r hfound htaken =>
    have hsame := sameMembers_of_advances (Reporter.advances_of_step? htaken)
    show r.endpoints.contains a = true
    rw [hsame.endpoints]
    exact ha

/-! ## Owners that are known -/

/-- The owner is empty or the address of a stored endpoint. -/
def Known (r : Registry) (owner : String) : Prop :=
  owner = "" ∨ r.endpoints.contains owner = true

theorem Moves.known {m : Move} {owner : String} (h : Moves s m t) (hm : m.evicts owner = false)
    (howner : Known s.registry owner) : Known t.registry owner :=
  howner.imp_right fun hstored => h.contains hm hstored

theorem known_ownerFor {r : Registry} (h : r.Consistent) (peer : Option Ip) :
    Known r (Resource.ownerFor r peer) := by
  unfold Resource.ownerFor
  cases hfound : peer.bind r.runtimeHostAt with
  | none => exact .inl rfl
  | some address =>
    obtain ⟨ip, -, hip⟩ := Option.bind_eq_some_iff.1 hfound
    obtain ⟨e, he, haddress⟩ := Option.map_eq_some_iff.1 hip
    obtain ⟨hstored, -⟩ := h.indexed.mem_members_iff.1 (List.mem_of_find?_eq_some he)
    rw [haddress] at hstored
    exact .inr (Book.contains_iff.2 ⟨e, hstored⟩)

/-- Over some steps an owner that is known stays known, unless it is evicted in one of them. -/
theorem Run.known_or_evicted {log : List Move} {owner : String} (h : Run s log t)
    (howner : Known s.registry owner) :
    Known t.registry owner ∨ ∃ m ∈ log, m.evicts owner = true := by
  by_cases hevicted : ∃ m ∈ log, m.evicts owner = true
  · exact .inr hevicted
  · push Not at hevicted
    refine .inl (h.keeps (P := fun s => Known s.registry owner) ?_ howner)
    exact fun m hm s t hs hmove => hmove.known (Bool.eq_false_iff.2 (hevicted m hm)) hs

/-! ## Records that name no host -/

/-- The record was last reported without a host. `between` is what happened between the look-up of its
owner and the storing. -/
def LastUnnamed (kind : Kind) (id : String) (log between : List Move) : Prop :=
  ∃ before i x y since,
    log = before ++ .turn i (some (.own x)) :: (between ++ .turn i (some (.store y)) :: since) ∧
    x.host = "" ∧ y.isOf kind id = true ∧ (∀ m ∈ between, m.isTurnOf i = false) ∧
    ∀ m ∈ since, m.touches kind id = false

/-- The owner of the record is known, if there is one, or it was evicted meanwhile. -/
def Accounted (kind : Kind) (id : String) (meanwhile : List Move) (r : Registry) : Prop :=
  ∀ x, r.record? kind id = some x → Known r x.host ∨ ∃ m ∈ meanwhile, m.evicts x.host = true

theorem Moves.accounted {m : Move} {meanwhile : List Move} (h : Moves s m t)
    (hs : Cascades s.registry) (hm : m.touches kind id = false)
    (hrecord : Accounted kind id meanwhile s.registry) :
    Accounted kind id meanwhile t.registry := by
  intro x hx
  rw [h.record? hs hm, Option.filter_eq_some_iff] at hx
  obtain ⟨hx, hkept⟩ := hx
  -- the record is still there, so its host was not evicted in this step
  refine (hrecord x hx).imp_left fun hknown => h.known ?_ hknown
  exact Bool.not_eq_true' _ ▸ hkept

theorem Run.accounted {log meanwhile : List Move} (h : Run s log t) (hs : Cascades s.registry)
    (hlog : ∀ m ∈ log, m.touches kind id = false)
    (hrecord : Accounted kind id meanwhile s.registry) :
    Accounted kind id meanwhile t.registry := by
  have hboth : Cascades t.registry ∧ Accounted kind id meanwhile t.registry := by
    refine h.keeps (P := fun s => Cascades s.registry ∧ Accounted kind id meanwhile s.registry)
      ?_ ⟨hs, hrecord⟩
    rintro m hm s t ⟨hs, hrecord⟩ hmove
    exact ⟨hmove.cascades hs, hmove.accounted hs (hlog m hm) hrecord⟩
  exact hboth.2

/-- A host is heard and sends a report of one container without a host; the report is read. -/
theorem exists_heard_and_begun :
    let peer := some (Ip.v4 10 0 0 4)
    let data := Bytes.ofText
      "tcp://10.0.0.4:4243 node4 1 container_runtime_internal_heartbeat"
    let payload := Bytes.ofText "\x7b\"Id\":\"c1\"\x7d report_container_created"
    ∃ log s c tasks x, Run ⟨.empty true, [.start peer [payload]]⟩ log s ∧
      s.registry = (Gossip.receive (.empty true) data ⟨0⟩).1 ∧ s.reporters[0]? = some c ∧
      c.peer = peer ∧ c.tasks = .own x :: tasks ∧ x.host = "" ∧ x.isOf .container "c1" = true := by
  intro peer data payload
  have hread : (Reporter.change? payload).toOption.map
      (fun change => change.resources.map fun x => (x.host, x.kind, x.id)) =
        some [("", .container, "c1")] := by decide +kernel
  cases hchange : Reporter.change? payload with
  | error fault =>
    rw [hchange] at hread
    cases hread
  | ok change =>
    rw [hchange] at hread
    obtain ⟨x, hx, hkey⟩ := List.map_eq_singleton_iff.1 (Option.some.inj hread)
    injection hkey with hhost hkey
    injection hkey with hkind hid
    have htake : change = .take [x] := change.eq_take hx
    rw [htake] at hchange
    have hheard := Moves.datagram ⟨.empty true, [.start peer [payload]]⟩ data ⟨0⟩
    obtain ⟨s, c, tasks, hbegin, hregistry, hfound, hpeer, htasks⟩ :=
      exists_moves_begin (s := ⟨(Gossip.receive (.empty true) data ⟨0⟩).1,
        [.start peer [payload]]⟩) List.getElem?_cons_zero hchange hhost
    refine ⟨_, s, c, tasks, x, .cons hheard (.cons hbegin (.nil s)), hregistry, hfound, hpeer,
      htasks, hhost, ?_⟩
    simp [Resource.isOf, hkind, hid]

/-- Where records go with their host, the owner of a record that was last reported without a host is empty
or stored, unless it was evicted between the look-up and the storing. -/
theorem owner_known_unless_evicted_between {ops : List Operation} {reporters : List Reporter}
    {log between : List Move}
    (hrun : Run ⟨(Registry.empty true).run ops, reporters⟩ log t)
    (hlast : LastUnnamed kind id log between) (hx : t.registry.record? kind id = some x) :
    Known t.registry x.host ∨ ∃ m ∈ between, m.evicts x.host = true := by
  obtain ⟨before, i, x', y', since, rfl, hx', hy', hbetween, hsince⟩ := hlast
  -- the log is cut at the look-up and at the storing
  obtain ⟨s₁, hbefore, hrun⟩ := Run.append_iff.1 hrun
  obtain ⟨s₂, hown, hrun⟩ := Run.cons_iff.1 hrun
  obtain ⟨s₃, hmeanwhile, hrun⟩ := Run.append_iff.1 hrun
  obtain ⟨s₄, hstore, hafter⟩ := Run.cons_iff.1 hrun
  have hstart : Cascades ((Registry.empty true).run ops) :=
    Cascades.run ⟨Consistent.empty true, rfl⟩ ops
  have h₁ : Cascades s₁.registry := hbefore.cascades hstart
  have h₂ := hown.cascades h₁
  have h₃ := hmeanwhile.cascades h₂
  obtain ⟨peer, hsame, hawaits⟩ := moves_own hown
  have hknown : Known s₂.registry (x'.withOwner s₁.registry peer).host := by
    rw [hsame, host_withOwner s₁.registry peer hx']
    exact known_ownerFor h₁.consistent peer
  generalize x'.withOwner s₁.registry peer = y at hawaits hknown
  have hawaits₃ : s₃.Awaits i y :=
    hmeanwhile.keeps (fun m hm s t hs hmove => hs.of_not_turn hmove (hbetween m hm)) hawaits
  obtain ⟨rfl, hstored⟩ := hawaits₃.moves_store hstore
  have hknown₃ : Known s₃.registry y'.host ∨ ∃ m ∈ between, m.evicts y'.host = true :=
    hmeanwhile.known_or_evicted hknown
  have haccounted : Accounted kind id between s₄.registry := by
    intro z hz
    rw [hstored, record?_store, if_pos hy'] at hz
    injection hz with hz
    subst hz
    exact hknown₃.imp_left fun h => hstore.known rfl h
  exact hafter.accounted (hstore.cascades h₃) hsince haccounted x hx

/-- A host is heard and reports a container, and nothing comes between. -/
theorem reported_owner_is_known :
    ∃ reporters log between t x,
      Run ⟨(Registry.empty true).run [], reporters⟩ log t ∧
      LastUnnamed .container "c1" log between ∧ t.registry.record? .container "c1" = some x ∧
      x.host = "tcp://10.0.0.4:4243" ∧ t.registry.endpoints.contains x.host = true := by
  obtain ⟨log, s, c, tasks, x, hrun, hregistry, hfound, hpeer, htasks, hx, hid⟩ :=
    exists_heard_and_begun
  obtain ⟨s₁, hown, hsame, hawaits⟩ := exists_moves_own hfound htasks
  obtain ⟨t, hstore, ht⟩ := hawaits.exists_moves_store
  have hhost : (x.withOwner s.registry c.peer).host = "tcp://10.0.0.4:4243" := by
    rw [host_withOwner s.registry c.peer hx, hregistry, hpeer]
    decide +kernel
  generalize hy : x.withOwner s.registry c.peer = y at hstore ht hhost
  have hkey : y.isOf .container "c1" = true := by
    rw [← hy, Resource.isOf, kind_withOwner, id_withOwner]
    exact hid
  have hall : Run ⟨(Registry.empty true).run [], _⟩ _ t :=
    Run.append_iff.2 ⟨s, hrun, .cons hown (.cons hstore (.nil t))⟩
  have hlast : LastUnnamed .container "c1"
      (log ++ [.turn 0 (some (.own x)), .turn 0 (some (.store y))]) [] :=
    ⟨log, 0, x, y, [], rfl, hx, hkey, fun m hm => absurd hm List.not_mem_nil,
      fun m hm => absurd hm List.not_mem_nil⟩
  have hrecord : t.registry.record? .container "c1" = some y := by
    rw [ht, record?_store, if_pos hkey]
  refine ⟨_, _, [], t, y, hall, hlast, hrecord, hhost, ?_⟩
  rcases owner_known_unless_evicted_between hall hlast hrecord with hknown | ⟨m, hm, -⟩
  · refine hknown.resolve_left fun hempty => ?_
    rw [hhost] at hempty
    exact absurd hempty (by decide)
  · cases hm

/-! ## Evictions in between -/

/-- A sweep that evicts the owner before the record is stored does not find the record: it is stored
afterwards, and its owner is not. -/
theorem exists_orphan_of_sweep_between (hfound : s.reporters[i]? = some c)
    (htasks : c.tasks = .own x :: tasks) (hx : x.host = "") (now : Moment) (maxAge : Span)
    (hsweep : (s.registry.evict now maxAge).2.any
      (·.address == Resource.ownerFor s.registry c.peer) = true) :
    ∃ y t, Run s [.turn i (some (.own x)), .other ⟨s.registry, .sweep now maxAge⟩,
        .turn i (some (.store y))] t ∧
      (y.kind, y.id) = (x.kind, x.id) ∧ t.registry.record? y.kind y.id = some y ∧
      y.host = Resource.ownerFor s.registry c.peer ∧
      t.registry.endpoints.contains y.host = false := by
  obtain ⟨s₁, hown, hregistry, hawaits⟩ := exists_moves_own hfound htasks
  have hsweeps := Moves.sweep s₁ now maxAge
  obtain ⟨t, hstore, ht⟩ := (hawaits.of_not_turn hsweeps rfl).exists_moves_store
  rw [hregistry] at hsweeps hstore ht
  have hhost := host_withOwner s.registry c.peer hx
  refine ⟨_, t, .cons hown (.cons hsweeps (.cons hstore (.nil t))), ?_, ?_, hhost, ?_⟩
  · rw [kind_withOwner, id_withOwner]
  · rw [ht, record?_store, if_pos]
    simp [Resource.isOf]
  · have hgone := get?_evict s.registry now maxAge (Resource.ownerFor s.registry c.peer)
    rw [if_pos hsweep] at hgone
    rw [ht, (sameMembers_store _ _).endpoints, hhost, Book.contains, hgone]
    rfl

/-- A host is heard and reports a container, but it is evicted between the look-up and the storing. -/
theorem sweep_between_leaves_orphan :
    ¬ ∀ (connections : List Connection) (log between : List Move) (t : Shared) (kind : Kind)
      (id : String) (x : Resource),
      Run ⟨.empty true, connections.map Connection.begin⟩ log t →
      LastUnnamed kind id log between → t.registry.record? kind id = some x →
      Known t.registry x.host := by
  intro hclaim
  obtain ⟨log, s, c, tasks, x, hrun, hregistry, hfound, hpeer, htasks, hx, -⟩ :=
    exists_heard_and_begun
  have howner : Resource.ownerFor s.registry c.peer = "tcp://10.0.0.4:4243" := by
    rw [hregistry, hpeer]
    decide +kernel
  have hsweep : (s.registry.evict (.ofParts 30 0) (.ofSeconds 10)).2.any
      (·.address == Resource.ownerFor s.registry c.peer) = true := by
    rw [howner, hregistry]
    decide +kernel
  obtain ⟨y, t, hrest, -, hrecord, hhost, hgone⟩ :=
    exists_orphan_of_sweep_between hfound htasks hx (.ofParts 30 0) (.ofSeconds 10) hsweep
  have hlast : LastUnnamed y.kind y.id (log ++ [.turn 0 (some (.own x)),
      .other ⟨s.registry, .sweep (.ofParts 30 0) (.ofSeconds 10)⟩, .turn 0 (some (.store y))])
      [.other ⟨s.registry, .sweep (.ofParts 30 0) (.ofSeconds 10)⟩] := by
    refine ⟨log, 0, x, y, [], rfl, hx, by simp [Resource.isOf], fun m hm => ?_, fun m hm => ?_⟩
    · rw [List.mem_singleton.1 hm]
      rfl
    · cases hm
  have hall := Run.append_iff.2 ⟨s, hrun, hrest⟩
  rcases hclaim [⟨_, _⟩] _ _ t y.kind y.id y hall hlast hrecord with hempty | hstored
  · rw [hhost, howner] at hempty
    exact absurd hempty (by decide)
  · rw [hgone] at hstored
    cases hstored

end Shared

end Report

end HostFleet
