import HostFleet.Proofs.Provision
import HostFleet.Proofs.Proxy.Contact
import HostFleet.Proofs.Registry.Selection

/-! # What a request does to the registry

The proxy reads the registry. The one thing that it changes are the numbers of the assignments: a request
that places a container takes the next host.

* `IsOrder`: the requests whose body is taken on as a creation.
* `Visit.Resolves`, `Visit.Places`: the policy of a visit's route, and the visits that take a host.
* `Visit.settle`: the registry when all is done, and what came of the container that was to be made.
* `requests_only_take_assignments`: nothing else changes, and no rejected creation takes a host.
-/

set_option autoImplicit false

namespace HostFleet.Proxy

open Http (Hosts Request Response)
open Route (Policy)

variable {σ τ : Type}

/-! ## Creations -/

/-- The body can be read, and it names an image. -/
structure IsOrder (request : Request) (create : CreateRequest) : Prop where
  short : request.body.length ≤ maxBody
  complete : request.broken = false
  read : CreateRequest.parse? request.body = some create
  image : Text.trim create.imageId ≠ ""

section Creation
variable {setup : Setup} {r : Registry} {request : Request}

theorem readBody?_eq_ok_iff {body : Bytes} : readBody? request = .ok body ↔
    request.body.length ≤ maxBody ∧ request.broken = false ∧ body = request.body := by
  unfold readBody?
  constructor
  · intro h
    split at h
    · cases h
    · next hread =>
      injection h with h
      simp only [Bool.or_eq_true, decide_eq_true_eq, not_or, Nat.not_lt, Bool.not_eq_true] at hread
      exact ⟨hread.1, hread.2, h.symm⟩
  · rintro ⟨hshort, hcomplete, rfl⟩
    refine if_neg ?_
    simp only [hcomplete, Bool.or_false, decide_eq_true_eq]
    omega

/-- An image is named if anything is left of the name without the white space around it. -/
theorem accept_of_image {create : CreateRequest} (h : Text.trim create.imageId ≠ "")
    (imageRegistry requestId : String) :
    Provision.accept r create imageRegistry requestId =
      (r.selectHost.1, match r.selectHost.2 with
        | some host => .ok ⟨requestId, host, create, imageRegistry⟩
        | none => .error .missingRoute) :=
  (Provision.accept_eq r create imageRegistry requestId).trans (if_neg (mt String.isEmpty_iff.1 h))

theorem fst_createServer_of_isOrder {create : CreateRequest} (h : IsOrder request create) :
    (createServer setup r request).1 = r.selectHost.1 := by
  unfold createServer
  simp only [readBody?_eq_ok_iff.2 ⟨h.short, h.complete, rfl⟩, h.read, accept_of_image h.image]
  cases r.selectHost.2 <;> rfl

theorem createServer_of_not_isOrder (setup : Setup) (r : Registry)
    (h : ∀ create, ¬IsOrder request create) :
    ∃ fault, createServer setup r request = (r, .answer (.ofFault fault)) := by
  unfold createServer
  cases hbody : readBody? request with
  | error fault => exact ⟨fault, rfl⟩
  | ok body =>
    obtain ⟨hshort, hcomplete, rfl⟩ := readBody?_eq_ok_iff.1 hbody
    cases hcreate : CreateRequest.parse? request.body with
    | none =>
      refine ⟨.badParameter "invalid JSON body", ?_⟩
      simp only [hcreate]
    | some create =>
      have himage : (Text.trim create.imageId).isEmpty = true := by
        by_contra himage
        exact h create ⟨hshort, hcomplete, hcreate, mt String.isEmpty_iff.2 himage⟩
      have hrefused : Provision.accept r create setup.imageRegistry setup.requestId =
          (r, .error (.badParameter "image_id is required")) := if_pos himage
      refine ⟨.badParameter "image_id is required", ?_⟩
      simp only [hcreate, hrefused]

/-- Either a host is taken for an order, or the registry stays as it is. -/
theorem createServer_cases (setup : Setup) (r : Registry) (request : Request) :
    (∃ order, (createServer setup r request).2 = .create order) ∨
      (createServer setup r request).1 = r := by
  by_cases h : ∃ create, IsOrder request create
  · obtain ⟨create, h⟩ := h
    cases hhost : r.selectHost.2 with
    | none =>
      rw [fst_createServer_of_isOrder h]
      exact .inr (Registry.selectHost_of_none hhost)
    | some host =>
      left
      unfold createServer
      simp only [readBody?_eq_ok_iff.2 ⟨h.short, h.complete, rfl⟩, h.read, accept_of_image h.image,
        hhost]
      exact ⟨_, rfl⟩
  · obtain ⟨fault, hrejected⟩ := createServer_of_not_isOrder setup r
      fun create hcreate => h ⟨create, hcreate⟩
    rw [hrejected]
    exact .inr rfl

end Creation

/-! ## Decisions -/

theorem decideBy_createServer (setup : Setup) (r : Registry) (request : Request) (name : String) :
    decideBy setup r request .createServer name = createServer setup r request := by
  unfold decideBy
  rfl

/-- Only the two policies that place a container change the registry. -/
theorem fst_decideBy_of_ne (setup : Setup) (r : Registry) (request : Request) {policy : Policy}
    (name : String) (hcontainer : policy ≠ .createContainer) (hserver : policy ≠ .createServer) :
    (decideBy setup r request policy name).1 = r := by
  unfold decideBy
  cases policy with
  | createContainer => exact absurd rfl hcontainer
  | createServer => exact absurd rfl hserver
  | explicitHost => rfl
  | hostOrRandom => rfl
  | byImage => rfl
  | byContainer => rfl
  | listControllers => rfl
  | listRuntimeHosts => rfl
  | listAgents => rfl
  | serverAction action => rfl
  | listImages =>
    dsimp only
    split <;> rfl
  | listContainers =>
    dsimp only
    split <;> rfl
  | commit =>
    dsimp only
    split <;> rfl
  | deleteServer =>
    dsimp only
    split <;> rfl

namespace Visit

variable {v : Visit σ}

/-- The request has a route with this policy. -/
def Resolves (v : Visit σ) (policy : Policy) : Prop :=
  ∃ found, v.setup.routes.resolve? v.request.method v.request.target.route = some found ∧
    found.policy = policy

/-- The visit takes the next host for a container. -/
inductive Places (v : Visit σ) : Prop where
  | container (h : v.Resolves .createContainer)
  | server (create : CreateRequest) (h : v.Resolves .createServer) (order : IsOrder v.request create)

/-- What is left of a visit in the end. -/
structure Settled (τ : Type) where
  registry : Registry
  /-- What came of the container that was to be made. -/
  outcome : Option (Provision.Outcome τ)

/-- Answers the request and then makes the container that was ordered, if one was. -/
def settle (v : Visit σ) (engine : Engine τ) (t : τ) : Settled τ :=
  let served := v.served
  ⟨served.registry, served.order.map (Provision.run engine t served.registry)⟩

theorem registry_served (v : Visit σ) :
    v.served.registry = (decide v.setup v.registry v.request).1 := by
  unfold served serve
  split <;> simp only [*]

/-- An order that is taken on is answered as created. -/
theorem status_of_create {order : Provision} (h : v.decision = .create order) :
    v.served.delivery.response.status = 201 := by
  unfold decision at h
  unfold served serve
  generalize decide v.setup v.registry v.request = decided at h
  obtain ⟨r, decision⟩ := decided
  subst h
  rfl

theorem decide_of_resolves {policy : Policy} (h : v.Resolves policy) :
    ∃ name, decide v.setup v.registry v.request =
      decideBy v.setup v.registry v.request policy name := by
  obtain ⟨found, hfound, rfl⟩ := h
  unfold decide
  rw [hfound]
  exact ⟨_, rfl⟩

theorem registry_of_places (h : v.Places) : v.served.registry = v.registry.selectHost.1 := by
  rw [registry_served]
  cases h with
  | container h =>
    obtain ⟨name, hdecide⟩ := decide_of_resolves h
    rw [hdecide]
    rfl
  | server create h order =>
    obtain ⟨name, hdecide⟩ := decide_of_resolves h
    rw [hdecide, decideBy_createServer, fst_createServer_of_isOrder order]

theorem registry_of_not_places (h : ¬v.Places) : v.served.registry = v.registry := by
  rw [registry_served]
  cases hfound : v.setup.routes.resolve? v.request.method v.request.target.route with
  | none =>
    unfold decide
    rw [hfound]
  | some found =>
    have hresolves : v.Resolves found.policy := ⟨found, hfound, rfl⟩
    obtain ⟨name, hdecide⟩ := decide_of_resolves hresolves
    rw [hdecide]
    by_cases hserver : found.policy = .createServer
    · rw [hserver] at hresolves
      obtain ⟨fault, hrejected⟩ := createServer_of_not_isOrder v.setup v.registry
        fun create order => h (.server create hresolves order)
      rw [hserver, decideBy_createServer, hrejected]
    · refine fst_decideBy_of_ne _ _ _ name ?_ hserver
      intro hcontainer
      exact h (.container (hcontainer ▸ hresolves))

theorem registry_of_rejected (h : v.Resolves .createServer)
    (hstatus : v.served.delivery.response.status ≠ 201) : v.served.registry = v.registry := by
  obtain ⟨name, hdecide⟩ := decide_of_resolves h
  rw [decideBy_createServer] at hdecide
  have hdecision : v.decision = (createServer v.setup v.registry v.request).2 :=
    congrArg Prod.snd hdecide
  rcases createServer_cases v.setup v.registry v.request with ⟨order, horder⟩ | hsame
  · exact absurd (status_of_create (hdecision.trans horder)) hstatus
  · rw [registry_served, hdecide]
    exact hsame

/-- However a request is answered, and whatever becomes of the container that it orders: the endpoints,
the records and the indexes stay as they are, the next host is taken exactly if a container is placed,
and a creation that is rejected takes none. -/
theorem requests_only_take_assignments (v : Visit σ) (engine : Engine τ) (t : τ) :
    let after := (v.settle engine t).registry
    Registry.SameRecords v.registry after ∧
      after.endpoints = v.registry.endpoints ∧ after.roles = v.registry.roles ∧
      (v.Places → after = v.registry.selectHost.1) ∧
      (¬v.Places → after = v.registry) ∧
      (v.Resolves .createServer → v.served.delivery.response.status ≠ 201 →
        after = v.registry) := by
  intro after
  have hframe : Registry.SameRecords v.registry after ∧
      after.endpoints = v.registry.endpoints ∧ after.roles = v.registry.roles := by
    by_cases hplaces : v.Places
    · have hafter : after = v.registry.selectHost.1 := registry_of_places hplaces
      rw [hafter]
      exact ⟨Registry.sameRecords_selectHost _, Registry.endpoints_selectHost _,
        Registry.roles_selectHost _⟩
    · have hafter : after = v.registry := registry_of_not_places hplaces
      rw [hafter]
      exact ⟨.refl _, rfl, rfl⟩
  exact ⟨hframe.1, hframe.2.1, hframe.2.2, registry_of_places, registry_of_not_places,
    registry_of_rejected⟩

end Visit

end HostFleet.Proxy
