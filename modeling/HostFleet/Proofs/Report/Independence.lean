import HostFleet.Proofs.Report.Writes
import Mathlib.Algebra.GroupWithZero.Nat
import Mathlib.Data.List.Pairwise
import Mathlib.Data.List.Perm.Basic

/-! # Reports that do not meet

Connections that report on different records do not disturb each other, however their steps follow one
another.

* `Reporter.writes`, `Reporter.answers`, `Reporter.stepsLeft`: what a connection still writes, what it
  will have been answered, and how many steps that takes; `Reporter.Advances`: all that a step does.
* `Shared.settled`: the registry after all that is left to write; no step changes it.
* `Shared.exists_isDone`: the connections come to an end.
* `independent_reports_commute`: the registry and the answers in the end.
-/

set_option autoImplicit false

namespace HostFleet

namespace Report

open Registry

variable {r s : Registry}

/-! ## Connections under way -/

namespace Reporter

/-- What the connection has still to write. -/
def writes (c : Reporter) (r : Registry) : List Write :=
  c.tasks.filterMap (Task.write? r c.peer) ++ c.waiting.flatMap (payloadWrites r c.peer)

/-- The answers of the connection, once it is done. -/
def answers (c : Reporter) : List Bool :=
  c.acks ++ c.tasks.filterMap Task.answer? ++ c.waiting.map isTaken

/-- The steps of a payload: to read it, and to carry it out. -/
def payloadSteps (payload : Bytes) : Nat :=
  match change? payload with
  | .ok change => 1 + ((Task.ofChange change).map Task.steps).sum
  | .error _ => 1

def stepsLeft (c : Reporter) : Nat :=
  (c.tasks.map Task.steps).sum + (c.waiting.map payloadSteps).sum

theorem writes_of_sameMembers (h : SameMembers r s) (c : Reporter) : c.writes s = c.writes r := by
  unfold writes
  rw [Task.write?_of_sameMembers h, payloadWrites_of_sameMembers h]

theorem filterMap_cons_eq {α β : Type} (f : α → Option β) (a : α) (l : List α) :
    (a :: l).filterMap f = (f a).toList ++ l.filterMap f := by
  cases h : f a <;> simp [h]

/-- What a step writes comes off what is left to write; the answers in the end stay the same. -/
structure Advances (c : Reporter) (r : Registry) (c' : Reporter) (r' : Registry) : Prop where
  written : ∃ done, c.writes r = done ++ c'.writes r ∧ r' = Write.applyAll r done
  answers : c'.answers = c.answers
  stepsLeft : c.stepsLeft = c'.stepsLeft + 1

theorem advances_beginPayload {c : Reporter} {payload : Bytes} {waiting : List Bytes}
    (htasks : c.tasks = []) (hwaiting : c.waiting = payload :: waiting) (r : Registry) :
    c.Advances r (c.beginPayload payload waiting) r := by
  unfold beginPayload
  cases h : change? payload with
  | ok change =>
    refine ⟨⟨[], ?_, rfl⟩, ?_, ?_⟩
    · simp only [writes, htasks, hwaiting, List.flatMap_cons, payloadWrites, h]
      rfl
    · simp only [answers, htasks, hwaiting, change.answers_ofChange, List.map_cons, isTaken, h]
      simp [Except.isOk, Except.toBool]
    · simp only [stepsLeft, htasks, hwaiting, List.map_cons, List.sum_cons, payloadSteps, h]
      simp
      omega
  | error fault =>
    refine ⟨⟨[], ?_, rfl⟩, ?_, ?_⟩
    · simp only [writes, htasks, hwaiting, List.flatMap_cons, payloadWrites, h]
      rfl
    · simp only [answers, htasks, hwaiting, List.map_cons, isTaken, h]
      simp [Except.isOk, Except.toBool]
    · simp only [stepsLeft, htasks, hwaiting, List.map_cons, List.sum_cons, payloadSteps, h]
      omega

/-- A task is replaced by what is left of it. -/
theorem advances_tasks {c : Reporter} {task : Task} {tasks : List Task} {acks : List Bool}
    (rest : List Task) (done : List Write) (htasks : c.tasks = task :: tasks)
    (hwrites : (task.write? r c.peer).toList = done ++ rest.filterMap (Task.write? r c.peer))
    (hanswers : c.acks ++ task.answer?.toList = acks ++ rest.filterMap Task.answer?)
    (hsteps : task.steps = (rest.map Task.steps).sum + 1) :
    c.Advances r { c with tasks := rest ++ tasks, acks := acks } (Write.applyAll r done) := by
  refine ⟨⟨done, ?_, rfl⟩, ?_, ?_⟩
  · simp only [writes, htasks, filterMap_cons_eq, hwrites, List.filterMap_append, List.append_assoc]
  · simp only [answers, htasks, filterMap_cons_eq, List.filterMap_append, ← List.append_assoc,
      hanswers]
  · simp only [stepsLeft, htasks, List.map_cons, List.sum_cons, hsteps, List.map_append,
      List.sum_append]
    omega

theorem advances_perform {c : Reporter} {task : Task} {tasks : List Task}
    (htasks : c.tasks = task :: tasks) (r : Registry) :
    c.Advances r (c.perform r task tasks).2 (c.perform r task tasks).1 := by
  cases task with
  | own x =>
    exact advances_tasks [.store (x.withOwner r c.peer)] [] htasks rfl rfl rfl
  | store x =>
    have hstored : x.store r = Write.applyAll r [.storing x] := (Write.apply_storing r x).symm
    simp only [perform, hstored]
    exact advances_tasks [] [.storing x] htasks rfl rfl rfl
  | dropImage id =>
    exact advances_tasks [] [.image id none] htasks rfl rfl rfl
  | dropContainer id =>
    exact advances_tasks [] [.container id none] htasks rfl rfl rfl
  | acknowledge =>
    exact advances_tasks [] [] htasks rfl (List.append_nil _).symm rfl

/-- A step carries out the first task, or takes up the next payload if there is none. -/
theorem step?_cases {c c' : Reporter} {r' : Registry} (h : c.step? r = some (r', c')) :
    (∃ task tasks, c.tasks = task :: tasks ∧ c.perform r task tasks = (r', c')) ∨
      ∃ payload waiting, c.tasks = [] ∧ c.waiting = payload :: waiting ∧ r' = r ∧
        c' = c.beginPayload payload waiting := by
  unfold step? at h
  split at h
  · next task tasks htasks =>
    injection h with h
    exact .inl ⟨task, tasks, htasks, h⟩
  · next payload waiting htasks hwaiting =>
    injection h with h
    injection h with hregistry hreporter
    exact .inr ⟨payload, waiting, htasks, hwaiting, hregistry.symm, hreporter.symm⟩
  · cases h

theorem advances_of_step? {c c' : Reporter} {r' : Registry} (h : c.step? r = some (r', c')) :
    c.Advances r c' r' := by
  rcases step?_cases h with
    ⟨task, tasks, htasks, hdone⟩ | ⟨payload, waiting, htasks, hwaiting, hr, hc⟩
  · have hadvances := advances_perform htasks r
    rw [hdone] at hadvances
    exact hadvances
  · rw [hr, hc]
    exact advances_beginPayload htasks hwaiting r

/-- A connection that is not done has a step to take. -/
theorem exists_step? {c : Reporter} (h : ¬c.isDone = true) (r : Registry) :
    ∃ r' c', c.step? r = some (r', c') := by
  unfold isDone at h
  unfold step?
  split
  · exact ⟨_, _, rfl⟩
  · exact ⟨_, _, rfl⟩
  · next htasks hwaiting =>
    rw [htasks, hwaiting] at h
    exact absurd rfl h

theorem of_isDone {c : Reporter} (h : c.isDone = true) :
    (∀ r, c.writes r = []) ∧ c.answers = c.acks := by
  unfold isDone at h
  rw [Bool.and_eq_true, List.isEmpty_iff, List.isEmpty_iff] at h
  obtain ⟨hwaiting, htasks⟩ := h
  refine ⟨fun r => ?_, ?_⟩
  · simp [writes, htasks, hwaiting]
  · simp [answers, htasks, hwaiting]

end Reporter

/-! ## Connections side by side -/

namespace Shared

theorem exists_append_of_getElem? {α : Type} {l : List α} {i : Nat} {a : α} (h : l[i]? = some a) :
    ∃ before after, l = before ++ a :: after ∧ ∀ b, l.set i b = before ++ b :: after := by
  induction l generalizing i with
  | nil => cases h
  | cons x l ih =>
    cases i with
    | zero =>
      injection h with h
      exact ⟨[], l, by rw [h]; rfl, fun b => rfl⟩
    | succ i =>
      obtain ⟨before, after, hl, hset⟩ := ih h
      refine ⟨x :: before, after, ?_, fun b => ?_⟩
      · rw [hl, List.cons_append]
      · rw [List.set_cons_succ, hset, List.cons_append]

/-- One connection takes a step, and the others stay as they are. -/
theorem ReportStep.cases {s t : Shared} (h : ReportStep s t) :
    ∃ before after c c', s.reporters = before ++ c :: after ∧
      t.reporters = before ++ c' :: after ∧ c.Advances s.registry c' t.registry := by
  obtain ⟨hfound, htaken⟩ := h
  obtain ⟨before, after, hreporters, hset⟩ := exists_append_of_getElem? hfound
  exact ⟨before, after, _, _, hreporters, hset _, Reporter.advances_of_step? htaken⟩

def writes (s : Shared) : List Write := s.reporters.flatMap (·.writes s.registry)

/-- The registry once everything is written. -/
def settled (s : Shared) : Registry := Write.applyAll s.registry s.writes

/-- No record is left to write for two connections. -/
def IsApart (s : Shared) : Prop :=
  s.reporters.Pairwise fun c d => Write.Apart (c.writes s.registry) (d.writes s.registry)

def stepsLeft (s : Shared) : Nat := (s.reporters.map (·.stepsLeft)).sum

theorem sameMembers_of_advances {c c' : Reporter} {r' : Registry} (h : c.Advances r c' r') :
    SameMembers r r' := by
  obtain ⟨done, -, hr⟩ := h.written
  rw [hr]
  exact Write.sameMembers_applyAll r done

theorem IsApart.step {s t : Shared} (hapart : s.IsApart) (h : ReportStep s t) : t.IsApart := by
  obtain ⟨before, after, c, c', hs, ht, hadvances⟩ := h.cases
  have hsame := sameMembers_of_advances hadvances
  obtain ⟨done, hwrites, -⟩ := hadvances.written
  have hfewer : c'.writes s.registry ⊆ c.writes s.registry := by
    rw [hwrites]
    exact List.subset_append_right done _
  unfold IsApart at hapart ⊢
  simp only [Reporter.writes_of_sameMembers hsame]
  rw [hs, List.pairwise_append, List.pairwise_cons] at hapart
  rw [ht, List.pairwise_append, List.pairwise_cons]
  obtain ⟨hbefore, ⟨hafter, hpairs⟩, hacross⟩ := hapart
  refine ⟨hbefore, ⟨fun d hd => (hafter d hd).mono hfewer (List.Subset.refl _), hpairs⟩, ?_⟩
  intro b hb d hd
  rcases List.mem_cons.1 hd with rfl | hd
  · exact (hacross b hb c List.mem_cons_self).mono (List.Subset.refl _) hfewer
  · exact hacross b hb d (List.mem_cons_of_mem c hd)

/-- What one connection writes might as well have been written before all that is left of the others. -/
theorem IsApart.settled_step {s t : Shared} (hapart : s.IsApart) (h : ReportStep s t) :
    t.settled = s.settled := by
  obtain ⟨before, after, c, c', hs, ht, hadvances⟩ := h.cases
  have hsame := sameMembers_of_advances hadvances
  obtain ⟨done, hwrites, hregistry⟩ := hadvances.written
  have hfirst : Write.Apart done (before.flatMap (·.writes s.registry)) := by
    intro w hw v hv
    obtain ⟨b, hb, hv⟩ := List.mem_flatMap.1 hv
    unfold IsApart at hapart
    rw [hs, List.pairwise_append] at hapart
    have hw' : w ∈ c.writes s.registry := by
      rw [hwrites]
      exact List.mem_append_left _ hw
    exact (hapart.2.2 b hb c List.mem_cons_self v hv w hw').symm
  unfold settled Shared.writes
  simp only [Reporter.writes_of_sameMembers hsame]
  rw [ht, hs, hregistry, List.flatMap_append, List.flatMap_append, List.flatMap_cons,
    List.flatMap_cons, hwrites, Write.applyAll_append, Write.applyAll_comm hfirst]
  simp only [Write.applyAll_append]

theorem answers_step {s t : Shared} (h : ReportStep s t) :
    t.reporters.map (·.answers) = s.reporters.map (·.answers) := by
  obtain ⟨before, after, c, c', hs, ht, hadvances⟩ := h.cases
  rw [hs, ht]
  simp only [List.map_append, List.map_cons, hadvances.answers]

theorem stepsLeft_step {s t : Shared} (h : ReportStep s t) : s.stepsLeft = t.stepsLeft + 1 := by
  obtain ⟨before, after, c, c', hs, ht, hadvances⟩ := h.cases
  have hleft := hadvances.stepsLeft
  unfold stepsLeft
  rw [hs, ht]
  simp only [List.map_append, List.map_cons, List.sum_append, List.sum_cons]
  omega

/-- Along any steps the registry in the end and the answers in the end stay the same. -/
theorem IsApart.reaches {s t : Shared} (hapart : s.IsApart) (h : Reaches ReportStep s t) :
    t.IsApart ∧ t.settled = s.settled ∧
      t.reporters.map (·.answers) = s.reporters.map (·.answers) := by
  induction h with
  | refl => exact ⟨hapart, rfl, rfl⟩
  | tail _ hstep ih =>
    obtain ⟨hapart', hsettled, hanswers⟩ := ih
    exact ⟨hapart'.step hstep, (hapart'.settled_step hstep).trans hsettled,
      (answers_step hstep).trans hanswers⟩

theorem IsDone.settled {s : Shared} (h : s.IsDone) : s.settled = s.registry := by
  have hnone : s.writes = [] := by
    unfold Shared.writes
    refine List.flatMap_eq_nil_iff.2 fun c hc => ?_
    exact (Reporter.of_isDone (h c hc)).1 s.registry
  unfold Shared.settled
  rw [hnone]
  rfl

theorem IsDone.answers {s : Shared} (h : s.IsDone) :
    s.reporters.map (·.answers) = s.reporters.map (·.acks) :=
  List.map_congr_left fun c hc => (Reporter.of_isDone (h c hc)).2

/-! ## Coming to an end -/

theorem exists_step_of_not_isDone {s : Shared} (h : ¬s.IsDone) : ∃ t, ReportStep s t := by
  unfold IsDone at h
  push Not at h
  obtain ⟨c, hc, hbusy⟩ := h
  obtain ⟨i, hi⟩ := List.getElem?_of_mem hc
  obtain ⟨r', c', htaken⟩ := Reporter.exists_step? hbusy s.registry
  exact ⟨_, .of hi htaken⟩

theorem Reaches.head {step : Shared → Shared → Prop} {s t u : Shared} (h : step s t)
    (h' : Reaches step t u) : Reaches step s u := by
  induction h' with
  | refl => exact .tail (.refl s) h
  | tail _ hlast ih => exact .tail ih hlast

theorem exists_isDone (s : Shared) : ∃ t, Reaches ReportStep s t ∧ t.IsDone := by
  by_cases hdone : s.IsDone
  · exact ⟨s, .refl s, hdone⟩
  · obtain ⟨t, hstep⟩ := exists_step_of_not_isDone hdone
    have hleft := stepsLeft_step hstep
    obtain ⟨u, hreaches, hdone'⟩ := exists_isDone t
    exact ⟨u, hreaches.head hstep, hdone'⟩
termination_by s.stepsLeft

end Shared

/-! ## Connections one after another -/

/-- A host and what it reports on a connection. -/
structure Connection where
  peer : Option Ip
  payloads : List Bytes
  deriving DecidableEq, Repr

namespace Connection

def begin (c : Connection) : Reporter := .start c.peer c.payloads

/-- The registry and the answers if the connection is alone. -/
def serve (r : Registry) (c : Connection) : Registry × List Bool :=
  acknowledgeAll c.peer r c.payloads

/-- The records that the connection is about. -/
def names (c : Connection) : List (Kind × String) := c.payloads.flatMap Report.names

def writes (c : Connection) (r : Registry) : List Write := c.payloads.flatMap (payloadWrites r c.peer)

theorem serve_eq (r : Registry) (c : Connection) :
    c.serve r = (Write.applyAll r (c.writes r), c.payloads.map isTaken) :=
  acknowledgeAll_eq c.peer r c.payloads

theorem answers_begin (c : Connection) : c.begin.answers = c.payloads.map isTaken := rfl

theorem key_writes (c : Connection) (r : Registry) : (c.writes r).map Write.key = c.names := by
  unfold writes names
  rw [List.map_flatMap]
  simp only [key_payloadWrites]

/-- Two connections are about different records. -/
def Unrelated (c d : Connection) : Prop := ∀ key ∈ c.names, key ∉ d.names

theorem Unrelated.symm {c d : Connection} (h : c.Unrelated d) : d.Unrelated c :=
  fun key hd hc => h key hc hd

instance : Std.Symm Unrelated := ⟨fun _ _ h => h.symm⟩

theorem Unrelated.apart {c d : Connection} (h : c.Unrelated d) (r : Registry) :
    Write.Apart (c.writes r) (d.writes r) := by
  intro w hw v hv hkey
  refine h w.key ?_ ?_
  · rw [← c.key_writes r]
    exact List.mem_map_of_mem hw
  · rw [hkey, ← d.key_writes r]
    exact List.mem_map_of_mem hv

theorem isApart_begin {connections : List Connection} (h : connections.Pairwise Unrelated)
    (r : Registry) : Shared.IsApart ⟨r, connections.map begin⟩ := by
  unfold Shared.IsApart
  rw [List.pairwise_map]
  exact h.imp fun hunrelated => hunrelated.apart r

/-- Connections that are served in turn write what each would write at the beginning. -/
theorem serveAll_eq (connections : List Connection) (r : Registry) :
    connections.foldl (fun r c => (c.serve r).1) r =
      connections.foldl (fun s c => Write.applyAll s (c.writes r)) r := by
  have hfrom : ∀ s, SameMembers r s → connections.foldl (fun r c => (c.serve r).1) s =
      connections.foldl (fun s c => Write.applyAll s (c.writes r)) s := by
    induction connections with
    | nil => exact fun s _ => rfl
    | cons c connections ih =>
      intro s hs
      have hwrites : c.writes s = c.writes r := by
        unfold writes
        rw [payloadWrites_of_sameMembers hs]
      rw [List.foldl_cons, List.foldl_cons, serve_eq, hwrites]
      exact ih _ (hs.trans (Write.sameMembers_applyAll s _))
  exact hfrom r (.refl r)

theorem settled_begin (connections : List Connection) (r : Registry) :
    Shared.settled ⟨r, connections.map begin⟩ =
      connections.foldl (fun s c => Write.applyAll s (c.writes r)) r := by
  unfold Shared.settled Shared.writes
  rw [List.flatMap_map, Write.applyAll, List.foldl_flatMap]
  rfl

theorem serveAll_perm {order connections : List Connection}
    (h : connections.Pairwise Unrelated) (hperm : List.Perm order connections) (r : Registry) :
    order.foldl (fun r c => (c.serve r).1) r =
      connections.foldl (fun r c => (c.serve r).1) r := by
  rw [serveAll_eq, serveAll_eq]
  refine hperm.foldl_eq' (fun c hc d hd s => ?_) r
  by_cases hsame : c = d
  · rw [hsame]
  · have hunrelated := h.forall (hperm.mem_iff.1 hc) (hperm.mem_iff.1 hd) hsame
    exact Write.applyAll_comm (hunrelated.apart r) s

theorem record?_applyAll_of_not_mem {c : Connection} {kind : Kind} {id : String}
    (h : (kind, id) ∉ c.names) (r s : Registry) :
    (Write.applyAll s (c.writes r)).record? kind id = s.record? kind id := by
  refine Write.record?_applyAll_of_forall_ne (fun w hw hkey => h ?_) s
  rw [← hkey, ← c.key_writes r]
  exact List.mem_map_of_mem hw

/-- A record that no connection is about stays. -/
theorem record?_serveAll_of_not_mem {connections : List Connection} {kind : Kind} {id : String}
    (h : ∀ c ∈ connections, (kind, id) ∉ c.names) (r : Registry) :
    (connections.foldl (fun r c => (c.serve r).1) r).record? kind id = r.record? kind id := by
  induction connections generalizing r with
  | nil => rfl
  | cons c connections ih =>
    rw [List.foldl_cons, ih fun d hd => h d (List.mem_cons_of_mem c hd), serve_eq]
    exact record?_applyAll_of_not_mem (h c List.mem_cons_self) r r

end Connection

open Connection in
/-- Connections that are about different records share a registry, and only they use it. Whatever the order
of their steps, they come to an end; the registry is then the one that serving them one after another, in
any order, leaves, and each has got the answers that it gets alone. Each record is what its own connection
alone makes of it, and a record that none is about is as it was. -/
theorem independent_reports_commute {r : Registry} {connections : List Connection}
    (hunrelated : connections.Pairwise Unrelated) {s : Shared}
    (hreaches : Shared.Reaches Shared.ReportStep ⟨r, connections.map begin⟩ s) :
    (∃ t, Shared.Reaches Shared.ReportStep s t ∧ t.IsDone) ∧
    (s.IsDone →
      (∀ order, List.Perm order connections →
        order.foldl (fun r c => (c.serve r).1) r = s.registry) ∧
      s.reporters.map (·.acks) = connections.map (fun c => (c.serve r).2) ∧
      (∀ c ∈ connections, ∀ kind id, (kind, id) ∈ c.names →
        s.registry.record? kind id = (c.serve r).1.record? kind id) ∧
      ∀ kind id, (∀ c ∈ connections, (kind, id) ∉ c.names) →
        s.registry.record? kind id = r.record? kind id) := by
  refine ⟨s.exists_isDone, fun hdone => ?_⟩
  obtain ⟨-, hsettled, hanswers⟩ := (isApart_begin hunrelated r).reaches hreaches
  have hregistry : connections.foldl (fun r c => (c.serve r).1) r = s.registry := by
    rw [serveAll_eq, ← settled_begin, ← hsettled, hdone.settled]
  have horder : ∀ order, List.Perm order connections →
      order.foldl (fun r c => (c.serve r).1) r = s.registry :=
    fun order hperm => (serveAll_perm hunrelated hperm r).trans hregistry
  refine ⟨horder, ?_, ?_, ?_⟩
  · rw [← hdone.answers, hanswers, List.map_map]
    refine List.map_congr_left fun c _ => ?_
    rw [serve_eq]
    exact c.answers_begin
  · intro c hc kind id hnamed
    -- the others may be served after this one
    have hperm := List.perm_cons_erase hc
    rw [← horder _ hperm.symm, List.foldl_cons]
    refine record?_serveAll_of_not_mem (fun d hd hnamed' => ?_) _
    have hpairs : (c :: connections.erase c).Pairwise Unrelated :=
      (hperm.pairwise_iff fun h => h.symm).1 hunrelated
    exact List.rel_of_pairwise_cons hpairs hd (kind, id) hnamed hnamed'
  · intro kind id hunnamed
    rw [← hregistry]
    exact record?_serveAll_of_not_mem hunnamed r

/-- A host that is known lists two containers and sends something else; an unknown one reports an image of
the same id as one of them, and a container that is gone. -/
theorem two_hosts_report_independently :
    let r := (Registry.empty true).addEndpoint
      ⟨"tcp://10.0.0.4:4243", "node4", .containerRuntimeInternal, 1, ⟨0⟩, .peer⟩
    let a : Connection := ⟨some (.v4 10 0 0 4),
      [Bytes.ofText "[\x7b\"Id\":\"a\"\x7d,\x7b\"Id\":\"b\"\x7d] report_container_list",
        Bytes.ofText "[] report_everything"]⟩
    let b : Connection := ⟨none,
      [Bytes.ofText "\x7b\"Id\":\"a\"\x7d report_image_created",
        Bytes.ofText "c report_container_deleted"]⟩
    [a, b].Pairwise Connection.Unrelated ∧
    ∃ t, Shared.Reaches Shared.ReportStep ⟨r, [a.begin, b.begin]⟩ t ∧ t.IsDone ∧
      (a.serve (b.serve r).1).1 = t.registry ∧
      t.reporters.map (·.acks) = [[true, false], [true, true]] ∧
      (t.registry.record? .container "a").map (·.host) = some "tcp://10.0.0.4:4243" := by
  intro r a b
  have hunrelated : [a, b].Pairwise Connection.Unrelated := by
    refine List.pairwise_cons.2 ⟨fun c hc => ?_, List.pairwise_singleton _ b⟩
    rw [List.mem_singleton.1 hc]
    unfold Connection.Unrelated
    decide +kernel
  have hstart := independent_reports_commute hunrelated (.refl ⟨r, [a, b].map Connection.begin⟩)
  obtain ⟨t, hreaches, hdone⟩ := hstart.1
  obtain ⟨horder, hacks, hnamed, -⟩ := (independent_reports_commute hunrelated hreaches).2 hdone
  refine ⟨hunrelated, t, hreaches, hdone, ?_, ?_, ?_⟩
  · exact horder [b, a] (List.Perm.swap a b [])
  · rw [hacks]
    decide +kernel
  · rw [hnamed a List.mem_cons_self .container "a" (by decide +kernel)]
    decide +kernel

end Report

end HostFleet
