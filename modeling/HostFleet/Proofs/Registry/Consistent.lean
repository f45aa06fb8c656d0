import HostFleet.Proofs.Registry.Frame

/-! # The parts of a registry agree

A registry keeps the same facts in several books. Whatever is done to it, the books agree.

* `Indexed`: every endpoint stands under its own address, and in the index of its own role only.
* `Mirrors`: a book of owners says what the records say.
* `Numbered`: the assignments have different numbers, and every host that has one is stored.
* `Consistent`: all of this. `Consistent.apply` keeps it over an operation, `Consistent.run` over a run.
* `members_eq`: in a consistent registry the members of a role are the stored endpoints that have it.
* `run_empty_indexes_agree`: the agreement in every registry that is reached from an empty one, and what
  follows for the counts, the lists by role and the random choice.
-/

set_option autoImplicit false

namespace HostFleet.Registry

/-! ## What agrees -/

/-- Every endpoint stands under its own address, and in the index of its own role only. -/
structure Indexed (endpoints : Book Endpoint) (roles : RoleIndex) : Prop where
  address_eq : ∀ {a : String} {e : Endpoint}, endpoints.get? a = some e → e.address = a
  contains_iff : ∀ {role : Role} {a : String},
    (roles.of role).contains a = true ↔ ∃ e, endpoints.get? a = some e ∧ e.role = role

/-- The owners are the hosts of the records, id by id. -/
def Mirrors {α : Type} (owners : Book String) (records : Book α) (host : α → String) : Prop :=
  ∀ id, owners.get? id = (records.get? id).map host

/-- Every number is that of one stored endpoint, and none is above the last one given. -/
structure Numbered (assignments : Book Nat) (last : Nat) (endpoints : Book Endpoint) : Prop where
  stored : ∀ {a : String} {n : Nat}, assignments.get? a = some n → ∃ e, endpoints.get? a = some e
  pos : ∀ {a : String} {n : Nat}, assignments.get? a = some n → 1 ≤ n
  le_last : ∀ {a : String} {n : Nat}, assignments.get? a = some n → n ≤ last
  injective : ∀ {a b : String} {n : Nat},
    assignments.get? a = some n → assignments.get? b = some n → a = b

/-- The parts of a registry agree. -/
structure Consistent (r : Registry) : Prop where
  indexed : Indexed r.endpoints r.roles
  containers : Mirrors r.containerOwners r.containers (·.host)
  images : Mirrors r.imageOwners r.images (·.host)
  numbered : Numbered r.assignments r.lastAssignment r.endpoints

variable {r s : Registry}

/-! ## The index -/

theorem Indexed.empty : Indexed ∅ .empty := by
  refine ⟨?_, ?_⟩
  · intro a e h
    rw [Book.get?_empty] at h
    cases h
  · intro role a
    have hrole : (RoleIndex.empty.of role).contains a = false := by cases role <;> rfl
    rw [hrole]
    simp [Book.get?_empty]

/-- An added endpoint is found in the index of its role only; the index of others is as it was. -/
theorem Indexed.contains_addEndpoint (h : Indexed r.endpoints r.roles) {e : Endpoint}
    {role : Role} {a : String} :
    ((r.addEndpoint e).roles.of role).contains a = true ↔
      if a = e.address then role = e.role else (r.roles.of role).contains a = true := by
  -- the index before the new place is added, with the old place of the address taken out
  have hbare : ∀ {roles : RoleIndex}, (∀ role a, (roles.of role).contains a = true ↔
      ((r.roles.of role).contains a = true ∧ (a = e.address → role = e.role))) →
      (((roles.insert e.role e.address).of role).contains a = true ↔
        if a = e.address then role = e.role else (r.roles.of role).contains a = true) := by
    intro roles hroles
    rw [RoleIndex.contains_insert, hroles]
    by_cases ha : a = e.address
    · rw [if_pos ha]
      exact ⟨fun hc => hc.elim (·.1) (·.2 ha), fun hrole => .inl ⟨hrole, ha⟩⟩
    · rw [if_neg ha]
      simp [ha]
  unfold addEndpoint
  split
  · next previous hprevious =>
    have hold : ∀ role, (r.roles.of role).contains e.address = true ↔ previous.role = role := by
      intro role
      rw [h.contains_iff, hprevious]
      simp
    split
    · next hsame =>
      refine hbare fun role a => ?_
      constructor
      · intro hc
        refine ⟨hc, ?_⟩
        rintro rfl
        rw [← hsame, ← (hold role).1 hc]
      · exact fun hc => hc.1
    · next hother =>
      refine hbare fun role a => ?_
      rw [RoleIndex.contains_erase]
      constructor
      · rintro ⟨hne, hc⟩
        refine ⟨hc, ?_⟩
        rintro rfl
        exact absurd ⟨((hold role).1 hc).symm, rfl⟩ hne
      · rintro ⟨hc, hrole⟩
        refine ⟨?_, hc⟩
        rintro ⟨rfl, rfl⟩
        exact hother (hrole rfl)
  · next hnone =>
    refine hbare fun role a => ?_
    constructor
    · intro hc
      refine ⟨hc, ?_⟩
      rintro rfl
      obtain ⟨e', he', -⟩ := h.contains_iff.1 hc
      rw [hnone] at he'
      cases he'
    · exact fun hc => hc.1

theorem Indexed.addEndpoint (h : Indexed r.endpoints r.roles) (e : Endpoint) :
    Indexed (r.addEndpoint e).endpoints (r.addEndpoint e).roles := by
  refine ⟨?_, ?_⟩
  · intro a e' he'
    rw [get?_addEndpoint] at he'
    by_cases ha : a = e.address
    · rw [if_pos ha] at he'
      injection he' with he'
      rw [← he', ha]
    · rw [if_neg ha] at he'
      exact h.address_eq he'
  · intro role a
    rw [h.contains_addEndpoint, get?_addEndpoint]
    by_cases ha : a = e.address
    · rw [if_pos ha, if_pos ha]
      simp [eq_comm]
    · rw [if_neg ha, if_neg ha]
      exact h.contains_iff

theorem Indexed.refresh (h : Indexed r.endpoints r.roles) (address : String) (now : Moment) :
    Indexed (r.refresh address now).endpoints r.roles := by
  refine ⟨?_, ?_⟩
  · intro a e he
    rw [get?_refresh] at he
    split at he
    · next ha =>
      obtain ⟨e', he', rfl⟩ := Option.map_eq_some_iff.1 he
      exact (h.address_eq he').trans ha.symm
    · exact h.address_eq he
  · intro role a
    rw [h.contains_iff, get?_refresh]
    split
    · next ha =>
      subst ha
      cases r.endpoints.get? a <;> simp
    · rfl

theorem Indexed.removeEndpoint (h : Indexed r.endpoints r.roles) (address : String) :
    Indexed (r.removeEndpoint address).endpoints (r.removeEndpoint address).roles := by
  unfold Registry.removeEndpoint
  split
  · next e he =>
    refine ⟨?_, ?_⟩
    · intro a e' he'
      rw [Book.get?_erase] at he'
      split at he'
      · cases he'
      · exact h.address_eq he'
    · intro role a
      rw [RoleIndex.contains_erase, h.contains_iff, Book.get?_erase]
      by_cases ha : a = address
      · rw [if_pos ha, ha, he]
        constructor
        · rintro ⟨hne, e', he', hrole⟩
          injection he' with he'
          exact absurd ⟨by rw [← hrole, he'], rfl⟩ hne
        · rintro ⟨e', he', -⟩
          cases he'
      · rw [if_neg ha]
        simp [ha]
  · exact h

/-! ## Owners -/

section Mirrors
variable {α : Type} {owners : Book String} {records : Book α} {host : α → String}

theorem Mirrors.empty : Mirrors ∅ (∅ : Book α) host := fun _ => rfl

theorem Mirrors.set (h : Mirrors owners records host) (id : String) (record : α) :
    Mirrors (owners.set id (host record)) (records.set id record) host := by
  intro other
  rw [Book.get?_set, Book.get?_set]
  by_cases ho : other = id
  · rw [if_pos ho, if_pos ho]
    rfl
  · rw [if_neg ho, if_neg ho]
    exact h other

theorem Mirrors.erase (h : Mirrors owners records host) (id : String) :
    Mirrors (owners.erase id) (records.erase id) host := by
  intro other
  rw [Book.get?_erase, Book.get?_erase]
  by_cases ho : other = id
  · rw [if_pos ho, if_pos ho]
    rfl
  · rw [if_neg ho, if_neg ho]
    exact h other

/-- Taking out the records that the owners give to a host takes out those that name it. -/
theorem Mirrors.get?_filter (h : Mirrors owners records host) (gone id : String) :
    (records.filter fun id _ => owners.get? id != some gone).get? id =
      (records.get? id).filter fun record => host record != gone := by
  rw [Book.get?_filter, h id]
  cases hr : records.get? id with
  | none => rfl
  | some record => simp [Option.filter, bne]

theorem Mirrors.filter (h : Mirrors owners records host) (gone : String) :
    Mirrors (owners.filter fun _ owner => owner != gone)
      (records.filter fun id _ => owners.get? id != some gone) host := by
  intro id
  rw [h.get?_filter, Book.get?_filter, h id]
  cases hr : records.get? id with
  | none => rfl
  | some record => by_cases hg : host record = gone <;> simp [Option.filter, hg]

end Mirrors

/-! ## Numbers -/

section Numbered
variable {assignments : Book Nat} {last : Nat} {endpoints endpoints' : Book Endpoint}

theorem Numbered.empty : Numbered ∅ 0 ∅ := by
  refine ⟨?_, ?_, ?_, ?_⟩ <;> intros <;> contradiction

theorem Numbered.mono (h : Numbered assignments last endpoints)
    (hstored : ∀ {a : String} {e : Endpoint}, endpoints.get? a = some e →
      ∃ e', endpoints'.get? a = some e') : Numbered assignments last endpoints' := by
  refine ⟨?_, h.pos, h.le_last, h.injective⟩
  intro a n hn
  obtain ⟨e, he⟩ := h.stored hn
  exact hstored he

/-- The next number goes to a stored endpoint; no other one has it. -/
theorem Numbered.set (h : Numbered assignments last endpoints) {address : String} {e : Endpoint}
    (he : endpoints.get? address = some e) :
    Numbered (assignments.set address (last + 1)) (last + 1) endpoints := by
  have hcases : ∀ {a : String} {n : Nat}, (assignments.set address (last + 1)).get? a = some n →
      (a = address ∧ n = last + 1) ∨ (a ≠ address ∧ assignments.get? a = some n) := by
    intro a n hn
    rw [Book.get?_set] at hn
    split at hn
    · next ha =>
      injection hn with hn
      exact .inl ⟨ha, hn.symm⟩
    · next ha => exact .inr ⟨ha, hn⟩
  refine ⟨?_, ?_, ?_, ?_⟩
  · intro a n hn
    rcases hcases hn with ⟨rfl, -⟩ | ⟨-, hn⟩
    · exact ⟨e, he⟩
    · exact h.stored hn
  · intro a n hn
    rcases hcases hn with ⟨-, rfl⟩ | ⟨-, hn⟩
    · omega
    · exact h.pos hn
  · intro a n hn
    rcases hcases hn with ⟨-, rfl⟩ | ⟨-, hn⟩
    · exact Nat.le_refl _
    · have := h.le_last hn
      omega
  · intro a b n ha hb
    rcases hcases ha with ⟨ha', hn⟩ | ⟨-, ha⟩ <;> rcases hcases hb with ⟨hb', hn'⟩ | ⟨-, hb⟩
    · rw [ha', hb']
    · have := h.le_last hb
      omega
    · have := h.le_last ha
      omega
    · exact h.injective ha hb

theorem Numbered.erase (h : Numbered assignments last endpoints) (address : String) :
    Numbered (assignments.erase address) last (endpoints.erase address) := by
  have hold : ∀ {a : String} {n : Nat}, (assignments.erase address).get? a = some n →
      a ≠ address ∧ assignments.get? a = some n := by
    intro a n hn
    rw [Book.get?_erase] at hn
    split at hn
    · cases hn
    · next ha => exact ⟨ha, hn⟩
  refine ⟨?_, ?_, ?_, ?_⟩
  · intro a n hn
    obtain ⟨e, he⟩ := h.stored (hold hn).2
    rw [Book.get?_erase, if_neg (hold hn).1]
    exact ⟨e, he⟩
  · exact fun hn => h.pos (hold hn).2
  · exact fun hn => h.le_last (hold hn).2
  · exact fun ha hb => h.injective (hold ha).2 (hold hb).2

end Numbered

/-! ## Every operation keeps the agreement -/

theorem Consistent.empty (cascade : Bool) : (Registry.empty cascade).Consistent :=
  ⟨.empty, .empty, .empty, .empty⟩

theorem Consistent.of_sameRecords (h : r.Consistent) (hs : SameRecords r s)
    (hindexed : Indexed s.endpoints s.roles)
    (hnumbered : Numbered s.assignments s.lastAssignment s.endpoints) : s.Consistent := by
  refine ⟨hindexed, ?_, ?_, hnumbered⟩
  · rw [hs.containerOwners, hs.containers]
    exact h.containers
  · rw [hs.imageOwners, hs.images]
    exact h.images

theorem Consistent.of_sameMembers (h : r.Consistent) (hs : SameMembers r s)
    (hcontainers : Mirrors s.containerOwners s.containers (·.host))
    (himages : Mirrors s.imageOwners s.images (·.host)) : s.Consistent := by
  refine ⟨?_, hcontainers, himages, ?_⟩
  · rw [hs.endpoints, hs.roles]
    exact h.indexed
  · rw [hs.assignments, hs.lastAssignment, hs.endpoints]
    exact h.numbered

theorem Consistent.addEndpoint (h : r.Consistent) (e : Endpoint) :
    (r.addEndpoint e).Consistent := by
  refine h.of_sameRecords (sameRecords_addEndpoint r e) (h.indexed.addEndpoint e) ?_
  refine h.numbered.mono ?_
  intro a e' he'
  rw [get?_addEndpoint]
  split
  · exact ⟨e, rfl⟩
  · exact ⟨e', he'⟩

theorem Consistent.refresh (h : r.Consistent) (address : String) (now : Moment) :
    (r.refresh address now).Consistent := by
  refine h.of_sameRecords (sameRecords_refresh r address now) (h.indexed.refresh address now) ?_
  refine h.numbered.mono ?_
  intro a e he
  rw [get?_refresh]
  split
  · next ha =>
    rw [← ha, he]
    exact ⟨_, rfl⟩
  · exact ⟨e, he⟩

theorem Consistent.recordHeartbeat (h : r.Consistent) (address hostname : String) (role : Role)
    (status : Int) (now : Moment) :
    (r.recordHeartbeat address hostname role status now).1.Consistent := by
  unfold Registry.recordHeartbeat
  split
  · exact h.refresh address now
  · exact h.addEndpoint _

theorem Consistent.removeEndpoint (h : r.Consistent) (address : String) :
    (r.removeEndpoint address).Consistent := by
  refine h.of_sameRecords (sameRecords_removeEndpoint r address)
    (h.indexed.removeEndpoint address) ?_
  unfold Registry.removeEndpoint
  split
  · exact h.numbered.erase address
  · exact h.numbered

theorem Consistent.removeResourcesOf (h : r.Consistent) (host : String) :
    (r.removeResourcesOf host).Consistent :=
  h.of_sameMembers (sameMembers_removeResourcesOf r host) (h.containers.filter host)
    (h.images.filter host)

theorem Consistent.evictEndpoint (h : r.Consistent) (address : String) :
    (r.evictEndpoint address).Consistent := by
  unfold Registry.evictEndpoint
  simp only
  split
  · exact (h.removeEndpoint address).removeResourcesOf address
  · exact h.removeEndpoint address

theorem Consistent.evict (h : r.Consistent) (now : Moment) (maxAge : Span) :
    (r.evict now maxAge).1.Consistent := by
  unfold Registry.evict
  generalize r.stale now maxAge = gone
  induction gone generalizing r with
  | nil => exact h
  | cons e gone ih => exact ih (h.evictEndpoint e.address)

theorem Consistent.get?_of_mem_members (h : r.Consistent) {role : Role} {e : Endpoint}
    (he : e ∈ r.members role) : r.endpoints.get? e.address = some e := by
  obtain ⟨a, -, ha⟩ := List.mem_filterMap.1 he
  rw [h.indexed.address_eq ha]
  exact ha

theorem Consistent.selectHost (h : r.Consistent) : r.selectHost.1.Consistent := by
  unfold Registry.selectHost
  split
  · exact h
  · next e he =>
    have hstored := h.get?_of_mem_members (mem_of_leastAssigned he)
    exact h.of_sameRecords ⟨rfl, rfl, rfl, rfl, rfl⟩ h.indexed (h.numbered.set hstored)

theorem Consistent.apply (h : r.Consistent) (op : Operation) : (r.apply op).Consistent := by
  cases op with
  | add e => exact h.addEndpoint e
  | refresh address now => exact h.refresh address now
  | heartbeat address hostname role status now =>
    exact h.recordHeartbeat address hostname role status now
  | evict now maxAge => exact h.evict now maxAge
  | select => exact h.selectHost
  | registerContainer id record =>
    exact h.of_sameMembers (sameMembers_registerContainer r id record)
      (h.containers.set id record) h.images
  | unregisterContainer id =>
    exact h.of_sameMembers (sameMembers_unregisterContainer r id) (h.containers.erase id) h.images
  | registerImage id record =>
    exact h.of_sameMembers (sameMembers_registerImage r id record) h.containers
      (h.images.set id record)
  | unregisterImage id =>
    exact h.of_sameMembers (sameMembers_unregisterImage r id) h.containers (h.images.erase id)

theorem Consistent.run (h : r.Consistent) (ops : List Operation) : (r.run ops).Consistent := by
  induction ops generalizing r with
  | nil => exact h
  | cons op ops ih => exact ih (h.apply op)

/-! ## The views of a consistent registry -/

/-- The index of a role holds the addresses of the stored endpoints that have it, and no other. -/
theorem Indexed.of_eq (h : Indexed r.endpoints r.roles) (role : Role) :
    r.roles.of role = (r.endpoints.filter fun _ e => e.role == role).map fun _ => () := by
  refine Book.ext_get? fun a => ?_
  have hc : (r.roles.of role).contains a = true ↔
      ∃ e, r.endpoints.get? a = some e ∧ e.role = role := h.contains_iff
  rw [Book.get?_map, Book.get?_filter]
  rw [Book.contains_iff] at hc
  cases he : r.endpoints.get? a with
  | none =>
    rw [he] at hc
    have hnone : (r.roles.of role).get? a = none := by
      refine Option.eq_none_iff_forall_ne_some.2 fun u hu => ?_
      obtain ⟨e, he', -⟩ := hc.1 ⟨u, hu⟩
      cases he'
    rw [hnone]
    rfl
  | some e =>
    rw [he] at hc
    by_cases hrole : e.role = role
    · obtain ⟨u, hu⟩ := hc.2 ⟨e, rfl, hrole⟩
      rw [hu]
      simp [Option.filter, hrole]
    · have hnone : (r.roles.of role).get? a = none := by
        refine Option.eq_none_iff_forall_ne_some.2 fun u hu => ?_
        obtain ⟨e', he', hrole'⟩ := hc.1 ⟨u, hu⟩
        injection he' with he'
        exact hrole (he' ▸ hrole')
      rw [hnone]
      simp [Option.filter, hrole]

/-- The members of a role are the stored endpoints that have it, in the order of the addresses. -/
theorem Indexed.members_eq (h : Indexed r.endpoints r.roles) (role : Role) :
    r.members role = r.endpoints.values.filter fun e => e.role == role := by
  unfold members
  rw [h.of_eq role]
  have hnames : ((r.endpoints.filter fun _ e => e.role == role).map fun _ => ()).names =
      (r.endpoints.entries.filter fun x => x.2.role == role).map (·.1) := by
    simp [Book.names, Book.map, Book.filter]
  have hstored : ∀ x ∈ r.endpoints.entries.filter fun x => x.2.role == role,
      x ∈ r.endpoints.toList := fun x hx => (List.mem_filter.1 hx).1
  rw [hnames, Book.filterMap_get? hstored, Book.values, List.filter_map]
  rfl

theorem Indexed.values_sorted (h : Indexed r.endpoints r.roles) :
    r.endpoints.values.Pairwise fun e e' => e.address < e'.address := by
  unfold Book.values
  rw [List.pairwise_map]
  refine r.endpoints.sorted.imp_of_mem ?_
  intro x y hx hy hlt
  rw [h.address_eq (r.endpoints.mem_toList_iff.1 hx), h.address_eq (r.endpoints.mem_toList_iff.1 hy)]
  exact hlt

theorem Indexed.members_sorted (h : Indexed r.endpoints r.roles) (role : Role) :
    (r.members role).Pairwise fun e e' => e.address < e'.address := by
  rw [h.members_eq]
  exact h.values_sorted.filter _

theorem Indexed.mem_members_iff (h : Indexed r.endpoints r.roles) {role : Role} {e : Endpoint} :
    e ∈ r.members role ↔ r.endpoints.get? e.address = some e ∧ e.role = role := by
  rw [h.members_eq, List.mem_filter, Book.mem_values_iff, beq_iff_eq]
  refine and_congr_left fun _ => ?_
  constructor
  · rintro ⟨a, ha⟩
    rw [h.address_eq ha]
    exact ha
  · exact fun he => ⟨e.address, he⟩

theorem length_eq_sum_roles (l : List (String × Endpoint)) :
    l.length = (l.filter fun x => x.2.role == .agentInternal).length +
      (l.filter fun x => x.2.role == .containerRuntimeInternal).length +
      (l.filter fun x => x.2.role == .controllerInternal).length +
      (l.filter fun x => x.2.role == .controllerProxy).length := by
  induction l with
  | nil => rfl
  | cons x l ih =>
    simp only [List.filter_cons, List.length_cons]
    cases x.2.role <;> simp <;> omega

theorem Indexed.size_eq (h : Indexed r.endpoints r.roles) (role : Role) :
    (r.roles.of role).size = (r.endpoints.entries.filter fun x => x.2.role == role).length := by
  rw [h.of_eq]
  simp [Book.size, Book.map, Book.filter]

theorem Indexed.stats_endpoints (h : Indexed r.endpoints r.roles) :
    r.stats.endpoints = r.stats.agents + r.stats.runtimeHosts + r.stats.controllerInternals +
      r.stats.controllerProxies := by
  have hsum := length_eq_sum_roles r.endpoints.entries
  rw [← h.size_eq, ← h.size_eq, ← h.size_eq, ← h.size_eq] at hsum
  exact hsum

/-! ## The random choice -/

/-- What a choice of one from a list may do: it takes one of them whenever there are any. -/
structure IsChoice (choose : List Endpoint → Option Endpoint) : Prop where
  mem : ∀ {l : List Endpoint} {e : Endpoint}, choose l = some e → e ∈ l
  eq_nil : ∀ {l : List Endpoint}, choose l = none → l = []

/-- The choice that takes one endpoint wherever it can. -/
def favour (e : Endpoint) (l : List Endpoint) : Option Endpoint :=
  if e ∈ l then some e else l.head?

theorem favour_isChoice (e : Endpoint) : IsChoice (favour e) := by
  refine ⟨?_, ?_⟩
  · intro l e' h
    unfold favour at h
    split at h
    · next he =>
      injection h with h
      exact h ▸ he
    · exact List.mem_of_mem_head? h
  · intro l h
    unfold favour at h
    split at h
    · cases h
    · exact List.head?_eq_none_iff.1 h

theorem IsChoice.randomEndpoint_eq_none_iff {choose : List Endpoint → Option Endpoint}
    (h : IsChoice choose) (r : Registry) (role : Role) :
    r.randomEndpoint role choose = none ↔ r.members role = [] := by
  refine ⟨h.eq_nil, fun hnil => ?_⟩
  unfold randomEndpoint
  rw [hnil]
  refine Option.eq_none_iff_forall_ne_some.2 fun e he => ?_
  cases h.mem he

theorem exists_randomEndpoint_iff (r : Registry) (role : Role) (e : Endpoint) :
    (∃ choose, IsChoice choose ∧ r.randomEndpoint role choose = some e) ↔ e ∈ r.members role := by
  constructor
  · rintro ⟨choose, h, he⟩
    exact h.mem he
  · intro he
    refine ⟨favour e, favour_isChoice e, ?_⟩
    unfold randomEndpoint favour
    rw [if_pos he]

/-! ## Every run -/

/-- After every run from an empty registry its books agree; the endpoints are counted role by role,
each role lists its endpoints once and by address, and a random choice may be any of that list. -/
theorem run_empty_indexes_agree (cascade : Bool) (ops : List Operation) :
    let r := (Registry.empty cascade).run ops
    r.Consistent ∧
    r.stats.endpoints = r.stats.agents + r.stats.runtimeHosts + r.stats.controllerInternals +
      r.stats.controllerProxies ∧
    ∀ role : Role,
      (∀ e, e ∈ r.members role ↔ r.endpoints.get? e.address = some e ∧ e.role = role) ∧
      (r.members role).Pairwise (fun e e' => e.address < e'.address) ∧
      (∀ choose, IsChoice choose → (r.randomEndpoint role choose = none ↔ r.members role = [])) ∧
      ∀ e, (∃ choose, IsChoice choose ∧ r.randomEndpoint role choose = some e) ↔
        e ∈ r.members role := by
  intro r
  have h : r.Consistent := (Consistent.empty cascade).run ops
  refine ⟨h, h.indexed.stats_endpoints, fun role => ⟨?_, ?_, ?_, ?_⟩⟩
  · exact fun e => h.indexed.mem_members_iff
  · exact h.indexed.members_sorted role
  · exact fun choose hchoose => hchoose.randomEndpoint_eq_none_iff r role
  · exact fun e => exists_randomEndpoint_iff r role e

end HostFleet.Registry
