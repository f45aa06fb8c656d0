import HostFleet.Proofs.Proxy.Lead
import HostFleet.Proofs.Proxy.Path
import HostFleet.Proofs.Registry.Selection
import HostFleet.Proofs.Text.Occurrence
import HostFleet.Rehearsal.Hosts

/-! # Where a request may go

Each policy sends a request to one host, or to none. Which one, is told here from the registry and the
parameters of the request.

* `callAddress?`: where calls to an address go; `ownerAddress?`, `hostAddress?`: where those to the owner
  of a record and to the `host` parameter do.
* `Concerns`: the record that a request is about; `Refused`: what is wrong with a request.
* `Visit.Arrives`: an ordinary request that has a standard route.
* `requests_go_where_they_belong`: the host of each policy.
* `slashes_lead_elsewhere`: hosts that begin with a slash.
-/

set_option autoImplicit false

namespace HostFleet

open Http (Form.get? Request Url)
open Route (Policy)

variable {σ : Type}

namespace Proxy

/-! ## Addresses -/

/-- Where calls to an address go: what stands behind the scheme, without white space around it. -/
def callAddress? (address : String) : Option String :=
  let host := Text.trim (Address.authority address)
  if host.isEmpty then none else some host

theorem usableHost?_some_authority (address : String) :
    usableHost? (some (Address.authority address)) = callAddress? address := by
  unfold usableHost? callAddress?
  rw [Option.map_some]
  cases h : (Text.trim (Address.authority address)).isEmpty with
  | false => simp [Option.filter, h]
  | true => simp [Option.filter, h]

theorem usableHost?_map_authority (address : Option String) :
    usableHost? (address.map Address.authority) = address.bind callAddress? := by
  cases address with
  | none => rfl
  | some address => rw [Option.map_some, Option.bind_some, usableHost?_some_authority]

theorem usableHost?_map_endpoint (e : Option Endpoint) :
    usableHost? (e.map (·.authority)) = e.bind fun e => callAddress? e.address := by
  cases e with
  | none => rfl
  | some e =>
    rw [Option.map_some, Option.bind_some, ← usableHost?_some_authority]
    rfl

theorem usableHost?_empty : usableHost? (some "") = none := by rfl

theorem callAddress?_empty : callAddress? "" = none := by rfl

/-! ### Owners -/

/-- Where the host of a record takes calls. -/
def ownerAddress? (r : Registry) (kind : Kind) (id : String) : Option String :=
  (r.record? kind id).bind fun record => callAddress? record.host

theorem ownerAddress?_eq_none {r : Registry} {kind : Kind} {id : String}
    (h : ∀ record, r.record? kind id = some record →
      Text.trim (Address.authority record.host) = "") : ownerAddress? r kind id = none := by
  unfold ownerAddress?
  cases hrecord : r.record? kind id with
  | none => rfl
  | some record =>
    rw [Option.bind_some]
    unfold callAddress?
    simp only [h record hrecord]
    rfl

/-- An owner without a name takes no calls, so that nothing is lost by not looking it up. -/
theorem usableHost?_owner {r : Registry} (h : r.Consistent) (kind : Kind) (id : String) :
    usableHost? ((r.owner? kind id).map Address.authority) = ownerAddress? r kind id := by
  rw [usableHost?_map_authority]
  unfold ownerAddress?
  cases howner : r.owner? kind id with
  | some owner =>
    obtain ⟨-, record, hrecord, rfl⟩ := h.owner?_eq_some_iff.1 howner
    rw [hrecord, Option.bind_some, Option.bind_some]
  | none =>
    cases hrecord : r.record? kind id with
    | none => rfl
    | some record =>
      have hempty : record.host = "" := by
        by_contra hne
        have hsome := h.owner?_eq_some_iff.2 ⟨hne, record, hrecord, rfl⟩
        rw [howner] at hsome
        cases hsome
      rw [Option.bind_some, hempty, callAddress?_empty]
      rfl

/-! ### The host parameter -/

/-- The value of a parameter; a field of the form goes before one of the query. -/
def param? (query form : Params) (name : String) : Option String :=
  (Form.get? form name).or (Form.get? query name)

/-- Where the named host takes calls. -/
def hostAddress? (query form : Params) : Option String :=
  (param? query form "host").bind fun host => callAddress? (Text.trim host)

theorem get?_append (query form : Params) (name : String) :
    Form.get? (query ++ form) name = param? query form name := by
  unfold Form.get? param?
  rw [List.reverse_append, List.lookup_append]
  rfl

theorem trimList_cases (s : List Char) :
    Text.trimList s = [] ∨
      ∃ front last, Text.trimList s = front ++ [last] ∧ Text.isBlank last = false := by
  unfold Text.trimList Text.trimEndList
  have hhead := List.head?_dropWhile_not Text.isBlank (Text.trimStartList s).reverse
  cases hdrop : (Text.trimStartList s).reverse.dropWhile Text.isBlank with
  | nil => exact .inl rfl
  | cons last front =>
    rw [hdrop] at hhead
    exact .inr ⟨front.reverse, last, List.reverse_cons, hhead⟩

theorem trimList_concat_ne_nil (front : List Char) {last : Char}
    (hlast : Text.isBlank last = false) : Text.trimList (front ++ [last]) ≠ [] := by
  have hstart : ∃ front', Text.trimStartList (front ++ [last]) = front' ++ [last] := by
    unfold Text.trimStartList
    rw [List.dropWhile_append]
    split
    · exact ⟨[], List.dropWhile_cons_of_neg (by simp [hlast])⟩
    · exact ⟨_, rfl⟩
  obtain ⟨front', hstart⟩ := hstart
  unfold Text.trimList Text.trimEndList
  rw [hstart, List.reverse_append, List.reverse_singleton, List.singleton_append,
    List.dropWhile_cons_of_neg (by simp [hlast])]
  simp

theorem exists_append_authorityList (s : List Char) :
    ∃ front, s = front ++ Address.authorityList s := by
  unfold Address.authorityList
  cases hcut : Text.cutAt Address.schemeMark s with
  | none => exact ⟨[], rfl⟩
  | some cut =>
    obtain ⟨hparts, -⟩ := Text.cutAt_eq_some_iff.1 hcut
    exact ⟨cut.1 ++ Address.schemeMark, hparts⟩

/-- What stands behind the scheme of a trimmed text is blank only if it is empty. -/
theorem callAddress?_trim_eq_none {text : String} (h : callAddress? (Text.trim text) = none) :
    Address.authority (Text.trim text) = "" := by
  have hblank : Text.trimList (Address.authorityList (Text.trimList text.toList)) = [] := by
    unfold callAddress? at h
    simp only [Text.trim, Address.authority, String.toList_ofList] at h
    split at h
    · next hempty => exact String.ofList_eq_empty_iff.1 (String.isEmpty_iff.1 hempty)
    · cases h
  have hnil : Address.authorityList (Text.trimList text.toList) = [] := by
    obtain ⟨scheme, hscheme⟩ := exists_append_authorityList (Text.trimList text.toList)
    rcases trimList_cases text.toList with hnil | ⟨front, last, htrim, hlast⟩
    · rw [hnil]
      rfl
    · rcases List.eq_nil_or_concat (Address.authorityList (Text.trimList text.toList)) with
        hnil | ⟨front', last', hconcat⟩
      · exact hnil
      · rw [List.concat_eq_append] at hconcat
        -- the text ends where its last part ends
        have hends : scheme ++ front' ++ [last'] = front ++ [last] := by
          rw [List.append_assoc, ← hconcat, ← hscheme, htrim]
        obtain ⟨-, hsame⟩ := List.append_inj' hends rfl
        rw [hconcat, List.singleton_inj.1 hsame] at hblank
        exact absurd hblank (trimList_concat_ne_nil front' hlast)
  unfold Address.authority Text.trim
  rw [String.toList_ofList, hnil]

theorem hostParam?_eq (query form : Params) :
    hostParam? (query ++ form) = (param? query form "host").bind fun host =>
      if Address.authority (Text.trim host) = "" then none
      else some (Address.authority (Text.trim host)) := by
  unfold hostParam?
  rw [get?_append]
  cases param? query form "host" with
  | none => rfl
  | some host =>
    rw [Option.map_some, Option.bind_some]
    split
    · next hempty => simp [Option.filter, hempty]
    · next hne => simp [Option.filter, hne]

theorem hostParam?_eq_none_iff (query form : Params) :
    hostParam? (query ++ form) = none ↔ hostAddress? query form = none := by
  rw [hostParam?_eq]
  unfold hostAddress?
  cases param? query form "host" with
  | none => rw [Option.bind_none, Option.bind_none]
  | some host =>
    rw [Option.bind_some, Option.bind_some]
    split
    · next hempty =>
      rw [← usableHost?_some_authority, hempty]
      exact iff_of_true rfl usableHost?_empty
    · next hne => exact iff_of_false (fun h => nomatch h) fun h => hne (callAddress?_trim_eq_none h)

theorem usableHost?_hostParam? (query form : Params) :
    usableHost? (hostParam? (query ++ form)) = hostAddress? query form := by
  rw [hostParam?_eq]
  unfold hostAddress?
  cases param? query form "host" with
  | none => rfl
  | some host =>
    rw [Option.bind_some, Option.bind_some, ← usableHost?_some_authority]
    split
    · next hempty =>
      rw [hempty, usableHost?_empty]
      rfl
    · rfl

/-! ## What a request is about -/

/-- The container that a commit names; an empty name is none. -/
def committed? (request : Request) (form : Params) : Option String :=
  (param? (queryParams request) form "container").filter (!·.isEmpty)

theorem commitHost?_of_committed {r : Registry} {request : Request} {form : Params} {id : String}
    (h : committed? request form = some id) :
    commitHost? r (queryParams request ++ form) = containerHost? r id := by
  unfold committed? at h
  unfold commitHost?
  rw [get?_append, h]

theorem commitHost?_of_none {r : Registry} {request : Request} {form : Params}
    (h : committed? request form = none) :
    commitHost? r (queryParams request ++ form) = hostParam? (queryParams request ++ form) := by
  unfold committed? at h
  unfold commitHost?
  rw [get?_append, h]

/-- The request is about the record of this kind and id. -/
inductive Concerns (request : Request) : Policy → String → Kind → String → Prop where
  | image (name : String) : Concerns request .byImage name .image name
  | container (name : String) : Concerns request .byContainer name .container name
  | action (verb name : String) : Concerns request (.serverAction verb) name .container name
  | deletion (name : String) {id : String}
    (h : Server.deleteTarget? (Form.get? (queryParams request) "id") = .ok id) :
    Concerns request .deleteServer name .container id
  | commit (name : String) {read : Request} {form : Params} {id : String}
    (hform : formParams? request = .ok (read, form)) (h : committed? request form = some id) :
    Concerns request .commit name .container id

/-- The request is refused before a host is looked for: its id is bad, its new path cannot be used, or its
form cannot be read. -/
inductive Refused (request : Request) : Policy → String → Fault → Prop where
  | badId (name : String) {fault : Fault}
    (h : Server.deleteTarget? (Form.get? (queryParams request) "id") = .error fault) :
    Refused request .deleteServer name fault
  | badDeletion (name : String) {id : String} {fault : Fault}
    (hid : Server.deleteTarget? (Form.get? (queryParams request) "id") = .ok id)
    (h : retarget? request.target ("/containers/" ++ id) = .error fault) :
    Refused request .deleteServer name fault
  | badAction (verb name : String) {fault : Fault}
    (h : retarget? request.target ("/containers/" ++ name ++ "/" ++ verb) = .error fault) :
    Refused request (.serverAction verb) name fault
  | badForm (name : String) {fault : Fault} (h : formParams? request = .error fault) :
    Refused request .commit name fault

theorem deleteTarget?_error {id : Option String} {fault : Fault}
    (h : Server.deleteTarget? id = .error fault) : fault.status = 400 := by
  unfold Server.deleteTarget? at h
  extract_lets ids at h
  split at h
  · cases h
    rfl
  · split at h
    · cases h
      rfl
    · cases h

theorem retarget?_error {target : Http.Target} {path : String} {fault : Fault}
    (h : retarget? target path = .error fault) : fault.status = 400 := by
  unfold retarget? at h
  extract_lets text at h
  split at h
  · cases h
  · cases h
    rfl

theorem formParams?_error {request : Request} {fault : Fault}
    (h : formParams? request = .error fault) : fault.status = 400 := by
  unfold formParams? at h
  split at h
  · cases h
  · unfold readBody? at h
    split at h
    · cases h
      rfl
    · cases h

/-- A form that is read changes neither the target of the request nor its headers. -/
theorem formParams?_ok {request read : Request} {form : Params}
    (h : formParams? request = .ok (read, form)) :
    read.target = request.target ∧ read.version = request.version ∧ read.headers = request.headers := by
  unfold formParams? at h
  split at h
  · cases h
    exact ⟨rfl, rfl, rfl⟩
  · unfold readBody? at h
    split at h
    · cases h
    · cases h
      exact ⟨rfl, rfl, rfl⟩

theorem beginsWithWord_containers (s : String) :
    Http.Url.BeginsWithWord ("/containers/" ++ s).toList := by
  refine ⟨"containers".toList, '/' :: s.toList, ?_, by decide, ?_⟩
  · rw [String.toList_append]
    rfl
  · intro c hc
    injection hc with hc
    exact hc ▸ rfl

/-! ## Visits that have a route -/

namespace Visit

/-- An ordinary request has a standard route, with this policy and name. -/
structure Arrives (v : Visit σ) (policy : Policy) (name : String) : Prop where
  routes : v.setup.routes = .standard
  choice : Registry.IsChoice v.setup.choose
  registry : v.registry.Consistent
  ordinary : IsOrdinary v.request
  found : ∃ found, v.setup.routes.resolve? v.request.method v.request.target.route = some found ∧
    found.policy = policy ∧ found.name.getD "" = name

variable {v : Visit σ} {policy : Policy} {name : String}

theorem Arrives.decision_eq (h : v.Arrives policy name) :
    v.decision = (decideBy v.setup v.registry v.request policy name).2 := by
  obtain ⟨found, hfound, rfl, rfl⟩ := h.found
  unfold decision decide
  rw [hfound]

theorem Arrives.beginsWithWord (h : v.Arrives policy name) :
    Http.Url.BeginsWithWord v.request.target.rawPath.toList := by
  obtain ⟨found, hfound, -, -⟩ := h.found
  rw [h.routes] at hfound
  exact Http.Target.beginsWithWord_rawPath (Route.beginsWithWord_of_resolve? hfound)

/-- A request that is passed on with its own target goes to the usable host. -/
theorem Arrives.goesTo (h : v.Arrives policy name) {host : Option String} {request : Request}
    (hdecision : (decideBy v.setup v.registry v.request policy name).2 = .forward host request)
    (htarget : request.target = v.request.target ∧ request.version = v.request.version ∧
      request.headers = v.request.headers) : v.GoesTo (usableHost? host) := by
  obtain ⟨htarget, hversion, hheaders⟩ := htarget
  refine goesTo_of_forward (h.decision_eq.trans hdecision) ⟨?_, ?_⟩ hheaders ?_
  · rw [hversion]
    exact h.ordinary.version
  · rw [hheaders]
    exact h.ordinary.agent
  · rw [htarget]
    exact Http.Target.beginsWithWord_pathAndQuery h.beginsWithWord

/-- A request that is aimed at a container goes to its owner, unless its path cannot be used. -/
theorem Arrives.goesTo_onContainer (h : v.Arrives policy name) {id path : String}
    (hpath : Http.Url.BeginsWithWord path.toList)
    (hdecision : (decideBy v.setup v.registry v.request policy name).2 =
      onContainer v.registry v.request id path) :
    (∃ fault, retarget? v.request.target path = .error fault) ∨
      v.GoesTo (ownerAddress? v.registry .container id) := by
  unfold onContainer at hdecision
  cases htarget : retarget? v.request.target path with
  | error fault => exact .inl ⟨fault, rfl⟩
  | ok target =>
    rw [htarget] at hdecision
    have hgoes := goesTo_of_forward (h.decision_eq.trans hdecision)
      ⟨h.ordinary.version, h.ordinary.agent⟩ rfl
      (Http.Target.beginsWithWord_pathAndQuery (beginsWithWord_of_retarget? htarget hpath))
    exact .inr (usableHost?_owner h.registry .container id ▸ hgoes)

theorem Arrives.isRefused (h : v.Arrives policy name) {fault : Fault}
    (hrefused : Refused v.request policy name fault) : v.IsRefused fault := by
  cases hrefused with
  | badId name hid =>
    refine isRefused_of_answer (h.decision_eq.trans ?_) (deleteTarget?_error hid)
    simp only [decideBy, hid]
  | badDeletion name hid htarget =>
    refine isRefused_of_answer (h.decision_eq.trans ?_) (retarget?_error htarget)
    simp only [decideBy, hid, onContainer, htarget]
  | badAction verb name htarget =>
    refine isRefused_of_answer (h.decision_eq.trans ?_) (retarget?_error htarget)
    simp only [decideBy, onContainer, htarget]
  | badForm name hform =>
    refine isRefused_of_answer (h.decision_eq.trans ?_) (formParams?_error hform)
    simp only [decideBy, hform]

theorem Arrives.goesTo_commitHost (h : v.Arrives .commit name) {read : Request} {form : Params}
    (hform : formParams? v.request = .ok (read, form)) :
    v.GoesTo (usableHost? (commitHost? v.registry (queryParams v.request ++ form))) := by
  have hdecision : (decideBy v.setup v.registry v.request .commit name).2 =
      .forward (commitHost? v.registry (queryParams v.request ++ form)) read := by
    simp only [decideBy, hform]
  exact h.goesTo hdecision (formParams?_ok hform)

/-! ## The host of each policy -/

/-- A request about a record goes to its owner, whatever else it asks for. -/
theorem Arrives.goesTo_owner (h : v.Arrives policy name) {kind : Kind} {id : String}
    (hconcerns : Concerns v.request policy name kind id) :
    (∃ fault, Refused v.request policy name fault) ∨ v.GoesTo (ownerAddress? v.registry kind id) := by
  have howner := usableHost?_owner h.registry kind id
  cases hconcerns with
  | image name => exact .inr (howner ▸ h.goesTo rfl ⟨rfl, rfl, rfl⟩)
  | container name => exact .inr (howner ▸ h.goesTo rfl ⟨rfl, rfl, rfl⟩)
  | action verb name =>
    have hpath : Http.Url.BeginsWithWord ("/containers/" ++ name ++ "/" ++ verb).toList := by
      rw [String.append_assoc, String.append_assoc]
      exact beginsWithWord_containers _
    refine (h.goesTo_onContainer hpath rfl).imp_left ?_
    exact fun ⟨fault, hfault⟩ => ⟨fault, .badAction verb name hfault⟩
  | deletion name hid =>
    refine (h.goesTo_onContainer (beginsWithWord_containers id)
      (by simp only [decideBy, hid])).imp_left ?_
    exact fun ⟨fault, hfault⟩ => ⟨fault, .badDeletion name hid hfault⟩
  | @commit name read form _ hform hid =>
    have hgoes := h.goesTo_commitHost hform
    rw [commitHost?_of_committed hid] at hgoes
    exact .inr (howner ▸ hgoes)

theorem Arrives.ownerAddress?_eq (h : v.Arrives policy name) {kind : Kind} {id host : String}
    (hconcerns : Concerns v.request policy name kind id) (hhost : v.host? = some host) :
    ownerAddress? v.registry kind id = some host := by
  rcases h.goesTo_owner hconcerns with ⟨fault, hrefused⟩ | hgoes
  · rw [(h.isRefused hrefused).named] at hhost
    cases hhost
  · rw [← hgoes.named, hhost]

theorem Arrives.goesTo_selected (h : v.Arrives .createContainer name) :
    v.GoesTo (v.registry.selectHost.2.bind fun e => callAddress? e.address) := by
  have hgoes := h.goesTo rfl ⟨rfl, rfl, rfl⟩
  rwa [usableHost?_map_endpoint] at hgoes

theorem Arrives.goesTo_named (h : v.Arrives .explicitHost name) :
    v.GoesTo (hostAddress? (queryParams v.request) []) := by
  have hgoes := h.goesTo rfl ⟨rfl, rfl, rfl⟩
  have hhost := usableHost?_hostParam? (queryParams v.request) []
  rw [List.append_nil] at hhost
  rwa [hhost] at hgoes

theorem Arrives.goesTo_commit (h : v.Arrives .commit name) {read : Request} {form : Params}
    (hform : formParams? v.request = .ok (read, form)) (hnone : committed? v.request form = none) :
    v.GoesTo (hostAddress? (queryParams v.request) form) := by
  have hgoes := h.goesTo_commitHost hform
  rwa [commitHost?_of_none hnone, usableHost?_hostParam?] at hgoes

theorem Arrives.goesTo_preferred (h : v.Arrives .hostOrRandom name) {host : String}
    (hhost : hostAddress? (queryParams v.request) [] = some host) : v.GoesTo (some host) := by
  have hparam := usableHost?_hostParam? (queryParams v.request) []
  rw [List.append_nil, hhost] at hparam
  cases hnamed : hostParam? (queryParams v.request) with
  | none =>
    rw [hnamed] at hparam
    cases hparam
  | some named =>
    have hdecision : (decideBy v.setup v.registry v.request .hostOrRandom name).2 =
        .forward (some named) v.request := by
      simp only [decideBy, hnamed]
    have hgoes := h.goesTo hdecision ⟨rfl, rfl, rfl⟩
    rwa [← hnamed, hparam] at hgoes

/-- Without a named host a stored runtime host is taken, if there is any. -/
theorem Arrives.goesTo_random (h : v.Arrives .hostOrRandom name)
    (hnone : hostAddress? (queryParams v.request) [] = none) :
    (∃ e, v.registry.endpoints.get? e.address = some e ∧ e.role = .containerRuntimeInternal ∧
      v.GoesTo (callAddress? e.address)) ∨
    ((∀ a, ¬v.registry.IsRuntimeHost a) ∧ v.GoesTo none) := by
  have hparam := (hostParam?_eq_none_iff (queryParams v.request) []).2 hnone
  rw [List.append_nil] at hparam
  have hdecision : (decideBy v.setup v.registry v.request .hostOrRandom name).2 = .forward
      ((v.registry.randomEndpoint .containerRuntimeInternal v.setup.choose).map (·.authority))
      v.request := by
    simp only [decideBy, hparam]
  have hgoes := h.goesTo hdecision ⟨rfl, rfl, rfl⟩
  rw [usableHost?_map_endpoint] at hgoes
  cases hrandom : v.registry.randomEndpoint .containerRuntimeInternal v.setup.choose with
  | none =>
    rw [hrandom, Option.bind_none] at hgoes
    have hempty := (h.choice.randomEndpoint_eq_none_iff v.registry .containerRuntimeInternal).1 hrandom
    refine .inr ⟨fun a ha => ?_, hgoes⟩
    obtain ⟨e, he, -⟩ := h.registry.isRuntimeHost_iff.1 ha
    rw [hempty] at he
    cases he
  | some e =>
    rw [hrandom, Option.bind_some] at hgoes
    obtain ⟨hstored, hrole⟩ := h.registry.indexed.mem_members_iff.1 (h.choice.mem hrandom)
    exact .inl ⟨e, hstored, hrole, hgoes⟩

end Visit

/-- Where an ordinary request with a standard route may go; to go to a host is to contact no other place than
the one that its text leads to. What is wrong with a request is answered with status 400. A request about a
record goes to the owner that is stored for it, and any two such requests that are passed on at the same state
of the registry have the same host. A creation goes to the host that is selected, other requests to the host
that they name, and some that name none to a stored runtime host. Without a host nobody is contacted, and the
answer is that there is no route. -/
theorem requests_go_where_they_belong {v : Visit σ} {policy : Policy} {name : String}
    (h : v.Arrives policy name) :
    (∀ fault, Refused v.request policy name fault → v.IsRefused fault) ∧
    (∀ kind id, Concerns v.request policy name kind id →
      (∀ fault, ¬Refused v.request policy name fault) →
      v.GoesTo (ownerAddress? v.registry kind id) ∧
      ((∀ record, v.registry.record? kind id = some record →
          Text.trim (Address.authority record.host) = "") →
        v.contacts = [] ∧ v.served.delivery.response = .ofFault .missingRoute)) ∧
    (∀ kind id host, Concerns v.request policy name kind id → v.host? = some host →
      ∀ (w : Visit σ) (policy' : Policy) (name' host' : String), w.Arrives policy' name' →
        w.registry = v.registry → Concerns w.request policy' name' kind id →
        w.host? = some host' → host' = host) ∧
    (policy = .createContainer →
      v.GoesTo (v.registry.selectHost.2.bind fun e => callAddress? e.address)) ∧
    (policy = .explicitHost → v.GoesTo (hostAddress? (queryParams v.request) [])) ∧
    (policy = .commit → ∀ read form, formParams? v.request = .ok (read, form) →
      committed? v.request form = none → v.GoesTo (hostAddress? (queryParams v.request) form)) ∧
    (policy = .hostOrRandom →
      (∀ host, hostAddress? (queryParams v.request) [] = some host → v.GoesTo (some host)) ∧
      (hostAddress? (queryParams v.request) [] = none →
        (∃ e, v.registry.endpoints.get? e.address = some e ∧ e.role = .containerRuntimeInternal ∧
          v.GoesTo (callAddress? e.address)) ∨
        ((∀ a, ¬v.registry.IsRuntimeHost a) ∧ v.GoesTo none))) := by
  refine ⟨fun fault => h.isRefused, ?_, ?_, ?_, ?_, ?_, ?_⟩
  · intro kind id hconcerns hsound
    rcases h.goesTo_owner hconcerns with ⟨fault, hrefused⟩ | hgoes
    · exact absurd hrefused (hsound fault)
    · exact ⟨hgoes, fun hblank => hgoes.missing (ownerAddress?_eq_none hblank)⟩
  · intro kind id host hconcerns hhost w policy' name' host' hw hregistry hconcerns' hhost'
    have howner := h.ownerAddress?_eq hconcerns hhost
    have howner' := hw.ownerAddress?_eq hconcerns' hhost'
    rw [hregistry, howner] at howner'
    injection howner' with howner'
    exact howner'.symm
  · rintro rfl
    exact h.goesTo_selected
  · rintro rfl
    exact h.goesTo_named
  · rintro rfl read form hform hnone
    exact h.goesTo_commit hform hnone
  · rintro rfl
    exact ⟨fun host => h.goesTo_preferred, h.goesTo_random⟩

example : Fault.missingRoute.status = 404 ∧ Fault.missingRoute.code = "MISSING_ROUTE" := ⟨rfl, rfl⟩

/-- An inspection of a container that names another host than the one that has it. Whoever is dialled is
reached. -/
def inspection (owner : String) : Visit Unit where
  setup := ⟨.standard, "", List.head?, "request"⟩
  hosts := ⟨fun s _ => (s, true), fun s _ _ => (s, none), fun s _ _ => (s, none), fun _ _ _ => []⟩
  state := ()
  registry := (Registry.empty true).run
    [.registerContainer "abc" ⟨"abc", "", "", 0, "", [], "tcp://" ++ owner, []⟩]
  request := ⟨"GET", ⟨none, none, "/containers/abc/json", some "host=10.0.0.9:4243"⟩, .http11, [], [],
    true, false⟩
  later := []

theorem arrives_inspection (owner : String) : (inspection owner).Arrives .byContainer "abc" where
  routes := rfl
  choice := ⟨List.mem_of_mem_head?, List.head?_eq_none_iff.1⟩
  registry := (Registry.Consistent.empty true).run _
  ordinary := ⟨.inr rfl, rfl⟩
  found := by
    have hfound : Route.Table.standard.resolve? "GET" "/containers/abc/json" =
        some ⟨.byContainer, some "abc"⟩ := by decide +kernel
    exact ⟨_, hfound, rfl, rfl⟩

theorem inspection_goes_to_owner :
    (inspection "node7:4243").Arrives .byContainer "abc" ∧
      (inspection "node7:4243").GoesTo (some "node7:4243") ∧
      (inspection "node7:4243").contacts ≠ [] ∧
      ∀ contact ∈ (inspection "node7:4243").contacts, Names "node7:4243" contact.place := by
  have harrives := arrives_inspection "node7:4243"
  have hsound : ∀ fault, ¬Refused (inspection "node7:4243").request .byContainer "abc" fault :=
    fun fault hrefused => nomatch hrefused
  have howner : ownerAddress? (inspection "node7:4243").registry .container "abc" =
      some "node7:4243" := by
    decide +kernel
  have hgoes := ((requests_go_where_they_belong harrives).2.1 .container "abc" (.container "abc") hsound).1
  rw [howner] at hgoes
  refine ⟨harrives, hgoes, by decide +kernel, fun contact hcontact => ?_⟩
  obtain ⟨name, hname, -, hnames⟩ := hgoes.leads contact hcontact
  injection hname with hname
  subst hname
  have hauthority : ("node7:4243".toList.all fun c =>
      !Url.isEnd c && c != '@' && Url.isKept c) = true := by decide +kernel
  refine hnames.2 (.inr fun c hc => ?_)
  simpa [and_assoc] using List.all_eq_true.1 hauthority c hc

/-- A request about the state of a host that it names. -/
def naming (host : String) (headers : Http.Headers) : Visit Rehearsal.Scene where
  setup := ⟨.standard, "", List.head?, "request"⟩
  hosts := Rehearsal.hosts
  state := .start true []
  registry := .empty true
  request := ⟨"GET", ⟨none, none, "/info", some ("host=" ++ host)⟩, .http11, headers, [], true, false⟩
  later := []

theorem arrives_naming (host : String) {headers : Http.Headers} (h : isHealthCheck headers = false) :
    (naming host headers).Arrives .hostOrRandom "" where
  routes := rfl
  choice := ⟨List.mem_of_mem_head?, List.head?_eq_none_iff.1⟩
  registry := Registry.Consistent.empty true
  ordinary := ⟨.inr rfl, h⟩
  found := by
    have hfound : Route.Table.standard.resolve? "GET" "/info" = some ⟨.hostOrRandom, none⟩ := by
      decide +kernel
    exact ⟨_, hfound, rfl, rfl⟩

theorem not_names_of_slash {name scheme : String} {host : Url.Host} {port : Nat}
    (h : '/' ∈ name.toList) : ¬Names name (.origin scheme host port) := by
  rintro (htext | hplace)
  · cases htext
  · exact absurd (Url.isAuthority_of_placeIn? hplace '/' h).1 (by decide)

/-- Behind slashes alone the first part of the path is dialled as a host, both for an owner and for a host that
is named. Slashes in front of a host are passed over; in a tunnel they are not, and nobody is reached. -/
theorem slashes_lead_elsewhere :
    let owned := inspection "/"
    let named := naming "/" []
    let called := naming "/127.66.0.1:4243" []
    let tunnelled := naming "/127.66.0.1:4243" tunnelHeaders
    (owned.Arrives .byContainer "abc" ∧ ownerAddress? owned.registry .container "abc" = some "/" ∧
      owned.contacts.head? = some (.dialled (.origin "http" (.domain "containers".toList) 80)) ∧
      ¬Names "/" (.origin "http" (.domain "containers".toList) 80)) ∧
    (named.Arrives .hostOrRandom "" ∧ hostAddress? (queryParams named.request) [] = some "/" ∧
      named.contacts = [.dialled (.origin "http" (.domain "info".toList) 80)] ∧
      ¬Names "/" (.origin "http" (.domain "info".toList) 80)) ∧
    (called.Arrives .hostOrRandom "" ∧
      hostAddress? (queryParams called.request) [] = some "/127.66.0.1:4243" ∧
      called.contacts.head? = some (.dialled (.origin "http" (.ip (.v4 127 66 0 1)) 4243)) ∧
      called.served.delivery.response.status = 200 ∧
      ¬Names "/127.66.0.1:4243" (.origin "http" (.ip (.v4 127 66 0 1)) 4243)) ∧
    tunnelled.Arrives .hostOrRandom "" ∧
      tunnelled.contacts = [.dialled (.text "/127.66.0.1:4243")] ∧
      tunnelled.served.delivery.response.status = 502 := by
  intro owned named called tunnelled
  have hslash (host : String) : '/' ∈ ("/" ++ host).toList := by
    rw [String.toList_append]
    exact List.mem_cons_self
  refine ⟨?owned, ?named, ?called, ?tunnelled⟩
  case owned =>
    exact ⟨arrives_inspection "/", by decide +kernel, by decide +kernel, not_names_of_slash (hslash "")⟩
  case named =>
    exact ⟨arrives_naming "/" rfl, by decide +kernel, by decide +kernel, not_names_of_slash (hslash "")⟩
  case called =>
    exact ⟨arrives_naming "/127.66.0.1:4243" rfl, by decide +kernel, by decide +kernel, by decide +kernel,
      not_names_of_slash (hslash "127.66.0.1:4243")⟩
  case tunnelled =>
    exact ⟨arrives_naming "/127.66.0.1:4243" (by decide +kernel), by decide +kernel, by decide +kernel⟩

end Proxy

end HostFleet
