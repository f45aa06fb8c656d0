import HostFleet.Proofs.Endpoint.Staleness
import HostFleet.Proofs.Registry.Records

/-! # Sweeps

A sweep works through the stale endpoints one by one, and takes each out of up to eight books. Here all
of it is one step: the registry without some addresses.

* `Registry.without`: the registry without these addresses and what belongs to them.
* `Consistent.foldl_evictEndpoint`: evicting addresses one by one comes to that, in whatever order.
* `Consistent.evict_evict`: a later sweep evicts what an earlier one does.
* `Swept`: what a sweep takes, book by book, and what it leaves.
* `sweep_evicts_the_stale`: all of this for every registry that is reached from an empty one.
-/

set_option autoImplicit false

namespace HostFleet

/-! ## Books without some names -/

namespace Book

variable {α : Type}

theorem filter_eq_self {b : Book α} {keep : String → α → Bool}
    (h : ∀ {name : String} {value : α}, b.get? name = some value → keep name value = true) :
    b.filter keep = b := by
  apply ext_get?
  intro name
  rw [get?_filter]
  cases hname : b.get? name with
  | none => rfl
  | some value => rw [Option.filter_some_pos (h hname)]

theorem filter_filter (b : Book α) (p q : String → α → Bool) :
    (b.filter p).filter q = b.filter fun name value => p name value && q name value := by
  apply ext_get?
  intro name
  rw [get?_filter, get?_filter, get?_filter, Option.filter_filter]

theorem contains_filter {b : Book α} {keep : String → Bool} {name : String} :
    (b.filter fun name _ => keep name).contains name = (b.contains name && keep name) := by
  unfold contains
  rw [get?_filter]
  cases b.get? name with
  | none => rfl
  | some value => cases hkeep : keep name <;> simp [Option.filter]

end Book

namespace RoleIndex

/-- The addresses of each role that satisfy a condition. -/
def filter (i : RoleIndex) (keep : String → Bool) : RoleIndex :=
  ⟨i.agents.filter fun a _ => keep a, i.runtimeHosts.filter fun a _ => keep a,
    i.controllerInternals.filter fun a _ => keep a, i.controllerProxies.filter fun a _ => keep a⟩

theorem of_filter (i : RoleIndex) (keep : String → Bool) (role : Role) :
    (i.filter keep).of role = (i.of role).filter fun a _ => keep a := by
  cases role <;> rfl

theorem ext_of {i j : RoleIndex} (h : ∀ role, i.of role = j.of role) : i = j := by
  obtain ⟨a, b, c, d⟩ := i
  obtain ⟨a', b', c', d'⟩ := j
  have ha : a = a' := h .agentInternal
  have hb : b = b' := h .containerRuntimeInternal
  have hc : c = c' := h .controllerInternal
  have hd : d = d' := h .controllerProxy
  rw [ha, hb, hc, hd]

end RoleIndex

namespace Registry

variable {r s : Registry}

/-- The registry without the addresses that are gone, and without the records of their hosts where
records go with their host. -/
def without (r : Registry) (gone : String → Bool) : Registry :=
  { r with
    endpoints := r.endpoints.filter fun a _ => !gone a
    roles := r.roles.filter fun a => !gone a
    assignments := r.assignments.filter fun a _ => !gone a
    containers := r.containers.filter fun _ record => !(r.cascade && gone record.host)
    containerOwners := r.containerOwners.filter fun _ owner => !(r.cascade && gone owner)
    images := r.images.filter fun _ record => !(r.cascade && gone record.host)
    imageOwners := r.imageOwners.filter fun _ owner => !(r.cascade && gone owner) }

theorem without_without (r : Registry) (gone gone' : String → Bool) :
    (r.without gone).without gone' = r.without fun a => gone a || gone' a := by
  have hroles : (r.roles.filter fun a => !gone a).filter (fun a => !gone' a) =
      r.roles.filter fun a => !(gone a || gone' a) := by
    apply RoleIndex.ext_of
    intro role
    rw [RoleIndex.of_filter, RoleIndex.of_filter, RoleIndex.of_filter, Book.filter_filter]
    simp only [Bool.not_or]
  have hrecords : ∀ host : String, (!(r.cascade && gone host) && !(r.cascade && gone' host)) =
      !(r.cascade && (gone host || gone' host)) := by
    intro host
    cases r.cascade <;> simp
  unfold without
  simp only [hroles, Book.filter_filter, Bool.not_or, hrecords]

/-! ## One address -/

theorem Indexed.erase_eq (h : Indexed r.endpoints r.roles) {address : String} {e : Endpoint}
    (he : r.endpoints.get? address = some e) :
    r.roles.erase e.role address = r.roles.filter fun a => !(a == address) := by
  apply RoleIndex.ext_of
  intro role
  rw [RoleIndex.of_filter, RoleIndex.erase, RoleIndex.of_modify]
  split
  · next hrole =>
    rw [hrole]
    rfl
  · next hrole =>
    -- the address stands in the index of its own role only
    refine (Book.filter_eq_self ?_).symm
    intro a u ha
    obtain ⟨e', he', hrole'⟩ := h.contains_iff.1 (Book.contains_iff.2 ⟨u, ha⟩)
    simp only [Bool.not_eq_true', beq_eq_false_iff_ne, ne_eq]
    rintro rfl
    rw [he] at he'
    injection he' with he'
    exact hrole (he' ▸ hrole'.symm)

theorem Indexed.filter_eq_self (h : Indexed r.endpoints r.roles) {address : String}
    (hnone : r.endpoints.get? address = none) :
    r.roles.filter (fun a => !(a == address)) = r.roles := by
  apply RoleIndex.ext_of
  intro role
  rw [RoleIndex.of_filter]
  refine Book.filter_eq_self ?_
  intro a u ha
  obtain ⟨e, he, -⟩ := h.contains_iff.1 (Book.contains_iff.2 ⟨u, ha⟩)
  simp only [Bool.not_eq_true', beq_eq_false_iff_ne, ne_eq]
  rintro rfl
  rw [hnone] at he
  cases he

/-- An endpoint is removed with its place in the index and its assignment; the records stay. -/
theorem Consistent.removeEndpoint_eq (h : r.Consistent) (address : String) :
    r.removeEndpoint address =
      { r with
        endpoints := r.endpoints.filter fun a _ => !(a == address)
        roles := r.roles.filter fun a => !(a == address)
        assignments := r.assignments.filter fun a _ => !(a == address) } := by
  unfold Registry.removeEndpoint
  split
  · next e he =>
    rw [h.indexed.erase_eq he]
    rfl
  · next hnone =>
    have hassignment : r.assignments.get? address = none := by
      refine Option.eq_none_iff_forall_ne_some.2 fun n hn => ?_
      obtain ⟨e, he⟩ := h.numbered.stored hn
      rw [hnone] at he
      cases he
    have hendpoints : (r.endpoints.filter fun a _ => !(a == address)) = r.endpoints :=
      Book.erase_of_get?_eq_none hnone
    have hassignments : (r.assignments.filter fun a _ => !(a == address)) = r.assignments :=
      Book.erase_of_get?_eq_none hassignment
    rw [h.indexed.filter_eq_self hnone, hendpoints, hassignments]

theorem Mirrors.filter_eq {α : Type} {owners : Book String} {records : Book α}
    {host : α → String} (h : Mirrors owners records host) (gone : String) :
    (records.filter fun id _ => owners.get? id != some gone) =
      records.filter fun _ record => !(host record == gone) := by
  apply Book.ext_get?
  intro id
  rw [h.get?_filter, Book.get?_filter]
  rfl

theorem Consistent.evictEndpoint_eq (h : r.Consistent) (address : String) :
    r.evictEndpoint address = r.without (· == address) := by
  have hall : ∀ {α : Type} (b : Book α), (b.filter fun _ _ => true) = b :=
    fun b => Book.filter_eq_self fun _ => rfl
  unfold Registry.evictEndpoint
  simp only [h.removeEndpoint_eq]
  cases hcascade : r.cascade with
  | true =>
    rw [if_pos rfl]
    unfold Registry.removeResourcesOf without
    simp only [hcascade, Bool.true_and, h.containers.filter_eq, h.images.filter_eq]
    rfl
  | false =>
    rw [if_neg Bool.false_ne_true]
    unfold without
    simp only [hcascade, Bool.false_and, Bool.not_false, hall]

/-! ## Many addresses -/

/-- Whatever the order in which endpoints are evicted, the registry is without them in the end. -/
theorem Consistent.foldl_evictEndpoint (h : r.Consistent) (gone : List Endpoint) :
    gone.foldl (fun r e => r.evictEndpoint e.address) r =
      r.without fun a => gone.any (·.address == a) := by
  induction gone generalizing r with
  | nil =>
    have hnone : r.without (fun _ => false) = r := by
      have hall : ∀ {α : Type} (b : Book α), (b.filter fun _ _ => true) = b :=
        fun b => Book.filter_eq_self fun _ => rfl
      have hroles : (r.roles.filter fun _ => true) = r.roles := by
        apply RoleIndex.ext_of
        intro role
        rw [RoleIndex.of_filter, hall]
      unfold without
      simp only [Bool.and_false, Bool.not_false, hall, hroles]
    exact hnone.symm
  | cons e gone ih =>
    rw [List.foldl_cons, ih (h.evictEndpoint e.address), h.evictEndpoint_eq, without_without]
    refine congrArg r.without (funext fun a => ?_)
    rw [List.any_cons, Bool.beq_comm]

theorem Consistent.evict_eq (h : r.Consistent) (now : Moment) (maxAge : Span) :
    r.evict now maxAge =
      (r.without fun a => (r.stale now maxAge).any (·.address == a), r.stale now maxAge) := by
  unfold Registry.evict
  simp only [h.foldl_evictEndpoint]

/-! ## The stale endpoints -/

theorem Indexed.mem_stale_iff (h : Indexed r.endpoints r.roles) {now : Moment} {maxAge : Span}
    {e : Endpoint} : e ∈ r.stale now maxAge ↔
      r.endpoints.get? e.address = some e ∧ e.isStale now maxAge = true := by
  unfold stale
  rw [List.mem_filter, Book.mem_values_iff]
  refine and_congr_left fun _ => ?_
  constructor
  · rintro ⟨a, ha⟩
    rw [h.address_eq ha]
    exact ha
  · exact fun he => ⟨e.address, he⟩

theorem Indexed.nodup_stale (h : Indexed r.endpoints r.roles) (now : Moment) (maxAge : Span) :
    (r.stale now maxAge).Nodup := by
  have hsorted := h.values_sorted.filter fun e => e.isStale now maxAge
  refine hsorted.imp fun {e e'} hlt => ?_
  rintro rfl
  exact String.lt_irrefl e.address hlt

theorem Indexed.any_stale (h : Indexed r.endpoints r.roles) (now : Moment) (maxAge : Span)
    (a : String) : (r.stale now maxAge).any (·.address == a) =
      (r.endpoints.get? a).any (·.isStale now maxAge) := by
  rw [Bool.eq_iff_iff, List.any_eq_true, Option.any_eq_true]
  constructor
  · rintro ⟨e, he, ha⟩
    obtain ⟨hstored, hstale⟩ := h.mem_stale_iff.1 he
    rw [beq_iff_eq.1 ha] at hstored
    exact ⟨e, hstored, hstale⟩
  · rintro ⟨e, hstored, hstale⟩
    have ha := h.address_eq hstored
    refine ⟨e, h.mem_stale_iff.2 ⟨?_, hstale⟩, beq_iff_eq.2 ha⟩
    rw [ha]
    exact hstored

/-- After a sweep those endpoints are stale that become so later on. -/
theorem Consistent.mem_stale_evict_iff (h : r.Consistent) {now later : Moment} {maxAge : Span}
    {e : Endpoint} : e ∈ (r.evict now maxAge).1.stale later maxAge ↔
      e ∈ r.stale later maxAge ∧ e ∉ r.stale now maxAge := by
  rw [(h.evict now maxAge).indexed.mem_stale_iff, h.indexed.mem_stale_iff, h.indexed.mem_stale_iff,
    h.evict_eq, without, Book.get?_filter, h.indexed.any_stale, Option.filter_eq_some_iff]
  constructor
  · rintro ⟨⟨hstored, hfresh⟩, hstale⟩
    refine ⟨⟨hstored, hstale⟩, ?_⟩
    rintro ⟨-, hgone⟩
    simp [hstored, hgone] at hfresh
  · rintro ⟨⟨hstored, hstale⟩, hfresh⟩
    refine ⟨⟨hstored, ?_⟩, hstale⟩
    have hgone : e.isStale now maxAge = false :=
      Bool.eq_false_iff.2 fun hgone => hfresh ⟨hstored, hgone⟩
    simp [hstored, hgone]

/-- A sweep leaves nothing of what an earlier one took that the later one would have left. -/
theorem Consistent.evict_evict (h : r.Consistent) {now later : Moment} (maxAge : Span)
    (hle : now.nanos ≤ later.nanos) :
    ((r.evict now maxAge).1.evict later maxAge).1 = (r.evict later maxAge).1 := by
  have hswept := h.evict now maxAge
  rw [hswept.evict_eq later maxAge, h.evict_eq later maxAge]
  simp only [hswept.indexed.any_stale]
  rw [h.evict_eq now maxAge, without_without]
  simp only [h.indexed.any_stale]
  refine congrArg r.without (funext fun a => ?_)
  rw [without, Book.get?_filter]
  cases ha : r.endpoints.get? a with
  | none => rfl
  | some e =>
    cases hnow : e.isStale now maxAge with
    | true => simp [hnow, Endpoint.isStale_of_le hle hnow]
    | false => simp [Option.filter, hnow]

/-! ## What is taken and what is left -/

/-- What is left of a registry when some endpoints are evicted: they are gone with their place in the
index of roles and their assignment, and where records go with their host, so are the records that name
one of them. All else is as it was. -/
structure Swept (r : Registry) (gone : List Endpoint) (s : Registry) : Prop where
  consistent : s.Consistent
  endpoint : ∀ a, s.endpoints.get? a =
    if gone.any (·.address == a) then none else r.endpoints.get? a
  role : ∀ role a, (s.roles.of role).contains a =
    ((r.roles.of role).contains a && !gone.any (·.address == a))
  assignment : ∀ a, s.assignments.get? a =
    if gone.any (·.address == a) then none else r.assignments.get? a
  lastAssignment : s.lastAssignment = r.lastAssignment
  record : ∀ kind id, s.record? kind id = (r.record? kind id).filter fun x =>
    !(r.cascade && gone.any (·.address == x.host))
  cascade : s.cascade = r.cascade

theorem Consistent.swept_evict (h : r.Consistent) (now : Moment) (maxAge : Span) :
    Swept r (r.evict now maxAge).2 (r.evict now maxAge).1 := by
  have hfilter : ∀ {α : Type} (o : Option α) (gone : Bool),
      (o.filter fun _ => !gone) = if gone then none else o := by
    intro α o gone
    cases o <;> cases gone <;> rfl
  refine ⟨h.evict now maxAge, get?_evict r now maxAge, ?_, ?_, ?_, ?_, cascade_evict r now maxAge⟩
  · intro role a
    rw [h.evict_eq, without, RoleIndex.of_filter, Book.contains_filter]
  · intro a
    rw [h.evict_eq, without, Book.get?_filter, hfilter]
  · rw [h.evict_eq]
    rfl
  · intro kind id
    exact h.record?_evict now maxAge kind id

/-- In every registry that is reached from an empty one, a sweep answers each stale endpoint once and no
other, and takes these endpoints and what goes with them, whatever the order in which it comes to them.
A later sweep behind it leaves what it would have left alone, and evicts what the first one did not. -/
theorem sweep_evicts_the_stale (cascade : Bool) (ops : List Operation) (now : Moment)
    (maxAge : Span) :
    let r := (Registry.empty cascade).run ops
    let swept := r.evict now maxAge
    swept.2.Nodup ∧
    (∀ e, e ∈ swept.2 ↔ r.endpoints.get? e.address = some e ∧ e.isStale now maxAge = true) ∧
    Swept r swept.2 swept.1 ∧
    (∀ order : List Endpoint, order.Perm swept.2 →
      order.foldl (fun r e => r.evictEndpoint e.address) r = swept.1) ∧
    ∀ later : Moment, now.nanos ≤ later.nanos →
      let second := swept.1.evict later maxAge
      let alone := r.evict later maxAge
      second.1 = alone.1 ∧ (∀ e ∈ swept.2, e ∉ second.2) ∧
        ∀ e, e ∈ alone.2 ↔ e ∈ swept.2 ∨ e ∈ second.2 := by
  intro r swept
  have h : r.Consistent := (Consistent.empty cascade).run ops
  refine ⟨h.indexed.nodup_stale now maxAge, fun e => h.indexed.mem_stale_iff,
    h.swept_evict now maxAge, ?_, ?_⟩
  · intro order hperm
    have hgone : ∀ a, order.any (·.address == a) = swept.2.any (·.address == a) :=
      fun a => hperm.any_eq
    have hswept : swept.1 = r.without fun a => swept.2.any (·.address == a) :=
      congrArg Prod.fst (h.evict_eq now maxAge)
    rw [h.foldl_evictEndpoint, hswept]
    exact congrArg r.without (funext hgone)
  · intro later hle second alone
    have hsecond : ∀ e, e ∈ second.2 ↔ e ∈ r.stale later maxAge ∧ e ∉ r.stale now maxAge :=
      fun e => h.mem_stale_evict_iff
    refine ⟨h.evict_evict maxAge hle, ?_, ?_⟩
    · intro e hfirst he
      exact ((hsecond e).1 he).2 hfirst
    · intro e
      rw [hsecond]
      constructor
      · intro halone
        by_cases hfirst : e ∈ r.stale now maxAge
        · exact .inl hfirst
        · exact .inr ⟨halone, hfirst⟩
      · rintro (hfirst | hlater)
        · obtain ⟨hstored, hstale⟩ := h.indexed.mem_stale_iff.1 hfirst
          exact h.indexed.mem_stale_iff.2 ⟨hstored, Endpoint.isStale_of_le hle hstale⟩
        · exact hlater.1

end Registry

end HostFleet
