import HostFleet.Proofs.Registry.Records
import Mathlib.Data.List.Induction

/-! # Selections over a run

The numbers of the assignments stand for the history of the selections: the host that is selected is the
one whose last selection is the longest ago.

* `Step`, `steps`: the operations of a run together with the registry that each of them meets.
* `Precedes`: the order in which hosts are selected, for numbers of any kind.
* `selectHost_eq_some_iff`: the selected host goes before every other runtime host.
* `Step.assignment_after`: what an operation does to the number of an address.
* `lastSelected`: where in a run an address was last selected, unless it was evicted since.
* `Ranked`: the numbers put the addresses in the order of their last selections; `ranked_run`.
* `selection_follows_history`: the selected host after every run, told from the run alone.
-/

set_option autoImplicit false

namespace HostFleet.Registry

variable {r : Registry} {a b c : String}

/-! ## Steps of a run -/

/-- The address of the host that a selection takes. -/
def nextHost? (r : Registry) : Option String := r.selectHost.2.map (·.address)

/-- An operation and the registry that it meets. -/
structure Step where
  registry : Registry
  operation : Operation

namespace Step

def after (s : Step) : Registry := s.registry.apply s.operation

/-- The address of the host that the operation selects. -/
def selected? (s : Step) : Option String :=
  match s.operation with
  | .select => s.registry.nextHost?
  | _ => none

/-- Is it a sweep that evicts an endpoint of the address? -/
def evicts (s : Step) (a : String) : Bool :=
  match s.operation with
  | .evict now maxAge => (s.registry.evict now maxAge).2.any (·.address == a)
  | _ => false

end Step

/-- The operations of a run as they happen, the first of them first. -/
def steps (r : Registry) : List Operation → List Step
  | [] => []
  | op :: ops => ⟨r, op⟩ :: steps (r.apply op) ops

theorem run_append (r : Registry) (ops ops' : List Operation) :
    r.run (ops ++ ops') = (r.run ops).run ops' := List.foldl_append

theorem run_concat (r : Registry) (ops : List Operation) (op : Operation) :
    r.run (ops ++ [op]) = (⟨r.run ops, op⟩ : Step).after := run_append r ops [op]

theorem steps_concat (r : Registry) (ops : List Operation) (op : Operation) :
    steps r (ops ++ [op]) = steps r ops ++ [⟨r.run ops, op⟩] := by
  induction ops generalizing r with
  | nil => rfl
  | cons first ops ih =>
    have hrun : r.run (first :: ops) = (r.apply first).run ops := rfl
    rw [hrun, List.cons_append, steps, ih, steps, List.cons_append]

/-! ## The order of the hosts -/

/-- The lower number goes first, and of equal numbers the lower address. -/
def Precedes (number : String → Nat) (a b : String) : Prop :=
  number a < number b ∨ (number a = number b ∧ a < b)

section Precedes
variable {number number' : String → Nat}

theorem Precedes.le (h : Precedes number a b) : number a ≤ number b := by
  rcases h with h | ⟨h, -⟩ <;> omega

theorem Precedes.of_lt (h : number a < number b) : Precedes number a b := .inl h

theorem Precedes.trans (hab : Precedes number a b) (hbc : Precedes number b c) :
    Precedes number a c := by
  rcases hab with hab | ⟨hab, ha⟩
  · have := hbc.le
    exact .inl (by omega)
  · rcases hbc with hbc | ⟨hbc, hb⟩
    · exact .inl (by omega)
    · exact .inr ⟨hab.trans hbc, String.lt_trans ha hb⟩

theorem Precedes.asymm (hab : Precedes number a b) : ¬Precedes number b a := by
  intro hba
  have hle := hab.le
  have hge := hba.le
  rcases hab with hab | ⟨-, ha⟩
  · omega
  · rcases hba with hba | ⟨-, hb⟩
    · omega
    · exact String.lt_asymm ha hb

theorem Precedes.ne (h : Precedes number a b) : a ≠ b := by
  rintro rfl
  exact h.asymm h

/-- Two numberings that compare alike put the addresses in the same order. -/
theorem precedes_congr (h : ∀ a b, number a < number b ↔ number' a < number' b) :
    Precedes number a b ↔ Precedes number' a b := by
  have hab := h a b
  have hba := h b a
  have heq : number a = number b ↔ number' a = number' b := by omega
  unfold Precedes
  rw [hab, heq]

end Precedes

/-! ## The selected host -/

/-- The address is that of a stored endpoint which has the runtime role. -/
def IsRuntimeHost (r : Registry) (a : String) : Prop :=
  ∃ e, r.endpoints.get? a = some e ∧ e.role = .containerRuntimeInternal

theorem leastAssigned_eq_none_iff {es : List Endpoint} : r.leastAssigned es = none ↔ es = [] := by
  cases es with
  | nil => simp [leastAssigned]
  | cons e es =>
    simp only [leastAssigned]
    split
    · simp
    · split <;> simp

/-- Of endpoints that stand by address, the least assigned one goes before all others. -/
theorem precedes_of_leastAssigned {es : List Endpoint}
    (hsorted : es.Pairwise fun e e' => e.address < e'.address) {e : Endpoint}
    (h : r.leastAssigned es = some e) {other : Endpoint} (hother : other ∈ es)
    (hne : other.address ≠ e.address) : Precedes r.assignment e.address other.address := by
  induction es generalizing e with
  | nil => cases hother
  | cons x es ih =>
    have hfirst : ∀ {y}, y ∈ es → x.address < y.address :=
      fun hy => List.rel_of_pairwise_cons hsorted hy
    have ih := fun {e} => @ih (List.Pairwise.of_cons hsorted) e
    simp only [leastAssigned] at h
    split at h
    · next hnone =>
      injection h with h
      rw [leastAssigned_eq_none_iff.1 hnone, List.mem_singleton] at hother
      exact absurd (by rw [hother, h]) hne
    · next best hbest =>
      have hx : x.address < best.address := hfirst (mem_of_leastAssigned hbest)
      split at h
      · next hlt =>
        injection h with h
        subst h
        rcases List.mem_cons.1 hother with rfl | hother
        · exact .of_lt hlt
        · exact ih hbest hother hne
      · next hle =>
        injection h with h
        subst h
        have hxbest : Precedes r.assignment x.address best.address := by
          rcases Nat.lt_or_eq_of_le (Nat.le_of_not_lt hle) with hlt | heq
          · exact .of_lt hlt
          · exact .inr ⟨heq, hx⟩
        rcases List.mem_cons.1 hother with rfl | hother
        · exact absurd rfl hne
        · by_cases hsame : other.address = best.address
          · exact hsame ▸ hxbest
          · exact hxbest.trans (ih hbest hother hsame)

theorem selectHost_snd (r : Registry) :
    r.selectHost.2 = r.leastAssigned (r.members .containerRuntimeInternal) := by
  unfold selectHost
  split
  · next h => exact h.symm
  · next h => exact h.symm

theorem selectHost_of_none (h : r.selectHost.2 = none) : r.selectHost.1 = r := by
  rw [selectHost_snd] at h
  unfold selectHost
  rw [h]

theorem Consistent.isRuntimeHost_iff (h : r.Consistent) :
    r.IsRuntimeHost a ↔ ∃ e ∈ r.members .containerRuntimeInternal, e.address = a := by
  constructor
  · rintro ⟨e, he, hrole⟩
    have haddress := h.indexed.address_eq he
    exact ⟨e, h.indexed.mem_members_iff.2 ⟨haddress ▸ he, hrole⟩, haddress⟩
  · rintro ⟨e, he, rfl⟩
    exact ⟨e, h.indexed.mem_members_iff.1 he⟩

theorem Consistent.selectHost_eq_none_iff (h : r.Consistent) :
    r.selectHost.2 = none ↔ ∀ a, ¬r.IsRuntimeHost a := by
  rw [selectHost_snd, leastAssigned_eq_none_iff, List.eq_nil_iff_forall_not_mem]
  constructor
  · intro hnone a ha
    obtain ⟨e, he, -⟩ := h.isRuntimeHost_iff.1 ha
    exact hnone e he
  · exact fun hnone e he => hnone e.address (h.isRuntimeHost_iff.2 ⟨e, he, rfl⟩)

/-- The selected host is the runtime host that goes before every other. -/
theorem Consistent.selectHost_eq_some_iff (h : r.Consistent) {e : Endpoint} :
    r.selectHost.2 = some e ↔
      (r.endpoints.get? e.address = some e ∧ e.role = .containerRuntimeInternal) ∧
      ∀ a, r.IsRuntimeHost a → a ≠ e.address → Precedes r.assignment e.address a := by
  rw [selectHost_snd, ← h.indexed.mem_members_iff]
  constructor
  · intro he
    refine ⟨mem_of_leastAssigned he, fun a ha hne => ?_⟩
    obtain ⟨other, hother, rfl⟩ := h.isRuntimeHost_iff.1 ha
    exact precedes_of_leastAssigned (h.indexed.members_sorted _) he hother hne
  · rintro ⟨he, hfirst⟩
    cases hbest : r.leastAssigned (r.members .containerRuntimeInternal) with
    | none =>
      rw [leastAssigned_eq_none_iff.1 hbest] at he
      cases he
    | some best =>
      have hmem := mem_of_leastAssigned hbest
      have hstored := h.get?_of_mem_members hmem
      by_cases hsame : best.address = e.address
      · rw [hsame, h.get?_of_mem_members he] at hstored
        exact hstored.symm
      · -- each of the two would go before the other
        have hbefore := hfirst best.address (h.isRuntimeHost_iff.2 ⟨best, hmem, rfl⟩) hsame
        exact absurd hbefore (precedes_of_leastAssigned (h.indexed.members_sorted _) hbest he
          (Ne.symm hsame)).asymm

/-! ## The numbers after an operation -/

theorem Consistent.assignment_le_last (h : r.Consistent) (a : String) :
    r.assignment a ≤ r.lastAssignment := by
  unfold assignment
  cases hn : r.assignments.get? a with
  | none => exact Nat.zero_le _
  | some n => exact h.numbered.le_last hn

theorem Consistent.eq_of_assignment_eq (h : r.Consistent) (hab : r.assignment a = r.assignment b)
    (hpos : r.assignment a ≠ 0) : a = b := by
  unfold assignment at hab hpos
  cases ha : r.assignments.get? a with
  | none => rw [ha] at hpos; exact absurd rfl hpos
  | some n =>
    cases hb : r.assignments.get? b with
    | none => rw [ha] at hpos; rw [ha, hb] at hab; exact absurd hab hpos
    | some m =>
      rw [ha, hb, Option.getD_some, Option.getD_some] at hab
      exact h.numbered.injective ha (hab ▸ hb)

theorem Consistent.assignment_of_get?_eq_none (h : r.Consistent)
    (ha : r.endpoints.get? a = none) : r.assignment a = 0 := by
  unfold assignment
  cases hn : r.assignments.get? a with
  | none => rfl
  | some n =>
    obtain ⟨e, he⟩ := h.numbered.stored hn
    rw [ha] at he
    cases he

theorem assignment_congr {s : Registry} (h : s.assignments = r.assignments) (a : String) :
    s.assignment a = r.assignment a := by
  unfold assignment
  rw [h]

theorem Consistent.assignment_evictEndpoint (h : r.Consistent) (address a : String) :
    (r.evictEndpoint address).assignment a = if a = address then 0 else r.assignment a := by
  have hremoved : (r.evictEndpoint address).assignment a =
      (r.removeEndpoint address).assignment a := by
    unfold Registry.evictEndpoint
    simp only
    split
    · exact assignment_congr (sameMembers_removeResourcesOf _ address).assignments a
    · rfl
  rw [hremoved]
  unfold Registry.removeEndpoint
  split
  · unfold assignment
    simp only
    rw [Book.get?_erase]
    split <;> rfl
  · next hnone =>
    split
    · next ha => rw [ha, h.assignment_of_get?_eq_none hnone]
    · rfl

theorem Consistent.assignment_evict (h : r.Consistent) (now : Moment) (maxAge : Span)
    (a : String) :
    (r.evict now maxAge).1.assignment a =
      if (r.evict now maxAge).2.any (·.address == a) then 0 else r.assignment a := by
  unfold Registry.evict
  generalize r.stale now maxAge = gone
  simp only
  induction gone generalizing r with
  | nil => rfl
  | cons e gone ih =>
    rw [List.foldl_cons, ih (h.evictEndpoint e.address), h.assignment_evictEndpoint, List.any_cons]
    by_cases he : e.address = a
    · simp [he]
    · simp [he, Ne.symm he]

theorem assignment_selectHost (r : Registry) (a : String) :
    r.selectHost.1.assignment a =
      if r.nextHost? = some a then r.lastAssignment + 1 else r.assignment a := by
  unfold nextHost? selectHost
  split
  · rfl
  · next e he =>
    unfold assignment
    simp only [Option.map_some, Option.some.injEq]
    rw [Book.get?_set]
    by_cases ha : e.address = a
    · rw [if_pos ha, if_pos ha.symm]
      rfl
    · rw [if_neg ha, if_neg (Ne.symm ha)]

/-- A sweep takes the numbers of those it evicts, and a selection gives a new one; nothing else touches
the number of an address. -/
theorem Step.assignment_after (s : Step) (h : s.registry.Consistent) (a : String) :
    s.after.assignment a =
      if s.evicts a then 0
      else if s.selected? = some a then s.registry.lastAssignment + 1
      else s.registry.assignment a := by
  obtain ⟨r, op⟩ := s
  cases op with
  | evict now maxAge => exact h.assignment_evict now maxAge a
  | select => exact assignment_selectHost r a
  | heartbeat address hostname role status now =>
    refine assignment_congr (s := (r.recordHeartbeat address hostname role status now).1) ?_ a
    unfold recordHeartbeat
    split <;> rfl
  | add e => rfl
  | refresh address now => rfl
  | registerContainer id record => rfl
  | unregisterContainer id => rfl
  | registerImage id record => rfl
  | unregisterImage id => rfl

/-! ## The last selections -/

/-- Searches back from the end of a run. -/
def searchBack (a : String) : List Step → Nat
  | [] => 0
  | s :: earlier =>
    if s.evicts a then 0
    else if s.selected? = some a then earlier.length + 1
    else searchBack a earlier

/-- The place in a run, counted from 1, at which the address was last selected; 0 if it was not since it
was last evicted. -/
def lastSelected (past : List Step) (a : String) : Nat := searchBack a past.reverse

theorem lastSelected_concat (past : List Step) (s : Step) (a : String) :
    lastSelected (past ++ [s]) a =
      if s.evicts a then 0
      else if s.selected? = some a then past.length + 1
      else lastSelected past a := by
  unfold lastSelected
  rw [List.reverse_append, List.reverse_singleton, List.singleton_append, searchBack,
    List.length_reverse]

theorem lastSelected_le_length (past : List Step) (a : String) :
    lastSelected past a ≤ past.length := by
  induction past using List.reverseRecOn with
  | nil => exact Nat.le_refl 0
  | append_singleton past s ih =>
    rw [lastSelected_concat, List.length_append, List.length_singleton]
    split
    · omega
    · split <;> omega

/-- The numbers of the assignments compare like the places of the last selections. -/
structure Ranked (past : List Step) (r : Registry) : Prop where
  zero_iff : ∀ a, r.assignment a = 0 ↔ lastSelected past a = 0
  lt_iff : ∀ a b, r.assignment a < r.assignment b ↔ lastSelected past a < lastSelected past b

theorem Ranked.precedes_iff {past : List Step} (h : Ranked past r) :
    Precedes r.assignment a b ↔ Precedes (lastSelected past) a b := precedes_congr h.lt_iff

theorem Ranked.eq_of_lastSelected_eq {past : List Step} (h : Ranked past r) (hr : r.Consistent)
    (hab : lastSelected past a = lastSelected past b) (hpos : lastSelected past a ≠ 0) : a = b := by
  have hlt := h.lt_iff a b
  have hgt := h.lt_iff b a
  refine hr.eq_of_assignment_eq ?_ ?_
  · omega
  · exact fun hzero => hpos ((h.zero_iff a).1 hzero)

/-- The step: a selection puts its host behind all others on both sides. -/
theorem Ranked.concat {past : List Step} {s : Step} (h : Ranked past s.registry)
    (hr : s.registry.Consistent) : Ranked (past ++ [s]) s.after := by
  refine ⟨?_, ?_⟩
  · intro a
    have hzero := h.zero_iff a
    rw [s.assignment_after hr, lastSelected_concat]
    split
    · exact Iff.rfl
    · split
      · omega
      · exact hzero
  · intro a b
    have hlt := h.lt_iff a b
    have hzero := h.zero_iff a
    have hzero' := h.zero_iff b
    have hlast := hr.assignment_le_last a
    have hlast' := hr.assignment_le_last b
    have hlength := lastSelected_le_length past a
    have hlength' := lastSelected_le_length past b
    rw [s.assignment_after hr, s.assignment_after hr, lastSelected_concat, lastSelected_concat]
    -- each of the two is evicted, selected, or keeps its old value, on both sides alike
    split <;> split <;> (try split) <;> (try split) <;> omega

theorem ranked_run (cascade : Bool) (ops : List Operation) :
    Ranked (steps (.empty cascade) ops) ((Registry.empty cascade).run ops) := by
  induction ops using List.reverseRecOn with
  | nil => exact ⟨fun _ => Iff.rfl, fun _ _ => Iff.rfl⟩
  | append_singleton ops op ih =>
    rw [steps_concat, run_concat]
    exact Ranked.concat ih ((Consistent.empty cascade).run ops)

/-- After every run from an empty registry the host that is selected is the runtime host whose last
selection since its last eviction is the longest ago: one without such a selection goes before one with,
the lower address decides between two without, and no two with one are equal. Nothing is selected, and
nothing changes, exactly when there is no runtime host. -/
theorem selection_follows_history (cascade : Bool) (ops : List Operation) :
    let past := steps (.empty cascade) ops
    let r := (Registry.empty cascade).run ops
    (∀ e, r.selectHost.2 = some e ↔
      (r.endpoints.get? e.address = some e ∧ e.role = .containerRuntimeInternal) ∧
      ∀ a, r.IsRuntimeHost a → a ≠ e.address → Precedes (lastSelected past) e.address a) ∧
    (∀ a b, lastSelected past a = lastSelected past b → lastSelected past a ≠ 0 → a = b) ∧
    (r.selectHost.2 = none ↔ ∀ a, ¬r.IsRuntimeHost a) ∧
    (r.selectHost.2 = none → r.selectHost.1 = r) := by
  intro past r
  have hconsistent : r.Consistent := (Consistent.empty cascade).run ops
  have hranked : Ranked past r := ranked_run cascade ops
  refine ⟨?_, ?_, hconsistent.selectHost_eq_none_iff, selectHost_of_none⟩
  · intro e
    rw [hconsistent.selectHost_eq_some_iff]
    simp only [hranked.precedes_iff]
  · exact fun a b => hranked.eq_of_lastSelected_eq hconsistent

end HostFleet.Registry
