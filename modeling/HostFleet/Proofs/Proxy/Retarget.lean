import HostFleet.Proofs.Proxy.Path
import Mathlib.Data.List.TakeWhile

/-! # The container that a new path names

A request to start, stop or delete a server is aimed at the path of a container. That path is read once
more as a target, so what is passed on names the container that was looked up only as long as no query
and no fragment begins in the id.

* `isPlain`, `beforeMarks`: texts in which no query or fragment begins, and where it does.
* `append_of_readParts`: what is read of a target is all of it but the fragment.
* `route_of_retarget?`, `retarget?_keeps_iff`: the path that a request gets, and when it is the one asked for.
* `standard_hasContainerRoute`: behind each of these routes there is one by container.
* `retargeted_requests_name_their_container`: what is passed on, to whom, and what it resolves to.
-/

set_option autoImplicit false

namespace HostFleet

/-! ## Marks -/

namespace Http.Target

/-- Does a query or a fragment begin with the character? -/
def isMark (c : Char) : Bool := c == '?' || c == '#'

/-- Does no query and no fragment begin in the text? -/
def isPlain (s : String) : Bool := s.toList.all fun c => !isMark c

/-- The text before its first query or fragment. -/
def beforeMarks (s : String) : String := String.ofList (s.toList.takeWhile fun c => !isMark c)

theorem beforeMarks_eq_self_iff {s : String} : beforeMarks s = s ↔ isPlain s = true := by
  unfold beforeMarks isPlain
  rw [← String.toList_inj, String.toList_ofList, List.takeWhile_eq_self_iff, List.all_eq_true]

theorem isPlain_append (s s' : String) : isPlain (s ++ s') = (isPlain s && isPlain s') := by
  unfold isPlain
  rw [String.toList_append, List.all_append]

theorem beforeMarks_append {s : String} (h : isPlain s = true) (s' : String) :
    beforeMarks (s ++ s') = s ++ beforeMarks s' := by
  refine String.toList_inj.1 ?_
  unfold beforeMarks
  rw [String.toList_ofList, String.toList_append, String.toList_append, String.toList_ofList]
  exact List.takeWhile_append_of_pos (List.all_eq_true.1 h)

theorem isPlain_of_subset {s s' : String} (h : isPlain s = true)
    (hs' : ∀ c ∈ s'.toList, c ∈ s.toList) : isPlain s' = true :=
  List.all_eq_true.2 fun c hc => List.all_eq_true.1 h c (hs' c hc)

/-! ## Reading a target -/

variable {t : Target} {s : List Char} {path text : String} {query : Option String}

theorem behindPath_injective {query' : Option String} (h : behindPath query = behindPath query') :
    query = query' := by
  cases query with
  | none =>
    cases query' with
    | none => rfl
    | some q' => cases h
  | some q =>
    cases query' with
    | none => cases h
    | some q' =>
      injection h with _ h
      rw [String.toList_inj.1 h]

theorem takeWhile_append_behindPath (p : List Char) (query : Option String) :
    (p ++ behindPath query).takeWhile (fun c => !isMark c) = p.takeWhile fun c => !isMark c := by
  induction p with
  | nil =>
    cases query with
    | none => rfl
    | some q => rfl
  | cons c p ih => rw [List.cons_append, List.takeWhile_cons, List.takeWhile_cons, ih]

theorem append_of_readParts (h : readParts s = some (path, query)) :
    path.toList ++ behindPath query = s.takeWhile (· != '#') := by
  unfold readParts at h
  extract_lets s' at h
  split at h
  · split at h
    · cases h
      rw [String.toList_ofList]
      exact List.append_nil s'
    · cases h
  · next before after hcut =>
    split at h
    · cases h
      obtain ⟨hjoin, -⟩ := Text.cutFirst_eq_some_iff.1 hcut
      have hafter : behindPath (some (String.ofList after)) = '?' :: after := by
        unfold behindPath
        rw [Option.elim_some, String.toList_ofList]
      rw [String.toList_ofList, hafter]
      exact hjoin.symm
    · cases h

theorem toList_of_readParts (h : readParts s = some (path, query)) :
    path.toList = s.takeWhile fun c => !isMark c := by
  have hmarks : ∀ c : Char, Decidable.decide ((c != '?') = true ∧ (c != '#') = true) = !isMark c := by
    intro c
    rw [isMark, Bool.not_or, Bool.decide_and, Bool.decide_eq_true, Bool.decide_eq_true]
    rfl
  rw [rawPath_of_readParts h, List.takeWhile_takeWhile]
  simp only [hmarks]

theorem isPlain_of_readParts (h : readParts s = some (path, query)) : isPlain path = true := by
  unfold isPlain
  rw [toList_of_readParts h]
  exact List.all_takeWhile

theorem hash_not_mem_of_readParts (h : readParts s = some (path, query)) :
    '#' ∉ behindPath query := by
  intro hmem
  have hin : '#' ∈ s.takeWhile (· != '#') := by
    rw [← append_of_readParts h]
    exact List.mem_append_right _ hmem
  have hne := List.mem_takeWhile_imp hin
  exact absurd hne (by decide)

theorem exists_readParts_of_full? (h : full? s = some t) :
    ∃ s, readParts s = some (t.rawPath, t.query) := by
  unfold full? at h
  split at h
  · split at h
    · cases h
      exact ⟨[], rfl⟩
    · cases h
  · next scheme rest hcut =>
    extract_lets isEnd authority at h
    split at h
    · cases h
    · obtain ⟨⟨path, query⟩, hparts, rfl⟩ := Option.map_eq_some_iff.1 h
      exact ⟨_, hparts⟩

/-- In whatever form a target is written, its path and its query are read by the same rules. -/
theorem exists_readParts_of_parse? (h : parse? text = some t) :
    ∃ s, readParts s = some (t.rawPath, t.query) := by
  unfold parse? at h
  split at h
  · cases h
  · split at h
    · cases h
      exact ⟨['*'], by decide +kernel⟩
    · obtain ⟨⟨path, query⟩, hparts, rfl⟩ := Option.map_eq_some_iff.1 h
      exact ⟨_, hparts⟩
    · exact exists_readParts_of_full? h

theorem isPlain_route_of_parse? (h : parse? text = some t) : isPlain t.route = true := by
  obtain ⟨s, hparts⟩ := exists_readParts_of_parse? h
  unfold route
  split
  · exact isPlain_of_readParts hparts
  · split <;> rfl

end Http.Target

/-! ## A new path -/

namespace Proxy

open Http (Form.get? Request Target)
open Http.Target (beforeMarks behindPath isPlain)

variable {target t : Target} {path text : String}

/-- The path that a request gets ends where a query or a fragment begins in the one that was asked for. -/
theorem route_of_retarget? (h : retarget? target path = .ok t)
    (hslash : path.toList.head? = some '/') : t.route = beforeMarks path := by
  have hraw : t.rawPath = beforeMarks path := by
    refine String.toList_inj.1 ?_
    unfold beforeMarks
    rw [Target.toList_of_readParts (readParts_of_retarget? h hslash), String.toList_ofList]
    exact Target.takeWhile_append_behindPath path.toList target.query
  have hne : t.rawPath.isEmpty = false := by
    cases hlist : path.toList with
    | nil =>
      rw [hlist] at hslash
      cases hslash
    | cons c rest =>
      rw [hlist] at hslash
      injection hslash with hc
      subst hc
      rw [hraw, ← Bool.not_eq_true, String.isEmpty_iff, beforeMarks, hlist, String.ofList_eq_empty_iff]
      exact List.cons_ne_nil _ _
  unfold Target.route
  rw [hne]
  exact hraw

theorem query_of_retarget? (h : retarget? target path = .ok t)
    (hslash : path.toList.head? = some '/') (hquery : '#' ∉ behindPath target.query)
    (hplain : isPlain path = true) : t.query = target.query := by
  have hparts := readParts_of_retarget? h hslash
  have hpath : t.rawPath.toList = path.toList := by
    rw [Target.toList_of_readParts hparts, Target.takeWhile_append_behindPath]
    exact List.takeWhile_eq_self_iff.2 (List.all_eq_true.1 hplain)
  -- no fragment begins in the whole text, so that nothing of it is lost
  have hwhole : ∀ c ∈ path.toList ++ behindPath target.query, (c != '#') = true := by
    intro c hc
    refine bne_iff_ne.2 ?_
    rintro rfl
    rcases List.mem_append.1 hc with hc | hc
    · exact absurd (List.all_eq_true.1 hplain _ hc) (by decide)
    · exact hquery hc
  have hjoin := Target.append_of_readParts hparts
  rw [List.takeWhile_eq_self_iff.2 hwhole, hpath] at hjoin
  exact Target.behindPath_injective (List.append_cancel_left hjoin)

theorem retarget?_keeps_iff (h : retarget? target path = .ok t)
    (hslash : path.toList.head? = some '/') (hparse : Target.parse? text = some target) :
    (t.route = path ∧ t.query = target.query) ↔ isPlain path = true := by
  obtain ⟨s, hparts⟩ := Target.exists_readParts_of_parse? hparse
  have hquery := Target.hash_not_mem_of_readParts hparts
  rw [route_of_retarget? h hslash, Target.beforeMarks_eq_self_iff]
  exact ⟨And.left, fun hplain => ⟨hplain, query_of_retarget? h hslash hquery hplain⟩⟩

end Proxy

/-! ## Routes to containers -/

namespace Route

open Http.Target (isPlain)

/-- Is what the route does to a container done by container too, under the path that it is given? -/
def Entry.hasContainerRoute (e : Entry) : Bool :=
  match e.policy with
  | .serverAction verb => !e.pattern.isExact && isPlain verb &&
    Table.standard.contains ⟨e.method, around "/containers/" ("/" ++ verb), .byContainer⟩
  | .deleteServer => Table.standard.contains ⟨e.method, around "/containers/" "", .byContainer⟩
  | _ => true

theorem standard_hasContainerRoute : Table.standard.all Entry.hasContainerRoute = true := by
  decide +kernel

theorem Pattern.Fits.mem {p : Pattern} {path : List Char} {n : String} (h : p.Fits path (some n))
    {c : Char} (hc : c ∈ n.toList) : c ∈ path := by
  cases p with
  | exact p => cases h.2
  | named head tail =>
    obtain ⟨n', rfl, hname⟩ := h
    injection hname with hname
    subst hname
    exact List.mem_append_left _ (List.mem_append_right _ hc)

namespace Table

variable {method path n : String} {policy : Policy} {name : Option String}

/-- The route of a request and the name that stands in its path. -/
theorem exists_entry_of_resolve? (h : standard.resolve? method path = some ⟨policy, name⟩) :
    ∃ e ∈ standard, e.method = method ∧ e.policy = policy ∧ e.hasContainerRoute = true ∧
      ∃ rest : List Char, e.pattern.Fits rest name ∧ ∀ c ∈ rest, c ∈ path.toList := by
  obtain ⟨rest, hpath, e, he, hmethod, hfits, hpolicy⟩ := standard_resolve?_eq_some_iff.1 h
  have hroute := List.all_eq_true.1 standard_hasContainerRoute e he
  refine ⟨e, he, hmethod, hpolicy.symm, hroute, rest.toList, hfits, ?_⟩
  intro c hc
  rcases hpath with rfl | ⟨v, -, rfl⟩
  · exact hc
  · rw [String.toList_append]
    exact List.mem_append_right _ hc

theorem resolve?_container {tail : String}
    (h : standard.contains ⟨method, around "/containers/" tail, .byContainer⟩ = true) :
    standard.resolve? method ("/containers/" ++ n ++ tail) = some ⟨.byContainer, some n⟩ := by
  refine standard_resolve?_eq_some_iff.2 ⟨_, .inl rfl, _, List.contains_iff_mem.1 h, rfl, ?_, rfl⟩
  refine ⟨n, ?_, rfl⟩
  rw [String.toList_append, String.toList_append]

theorem serverAction_of_resolve? {verb : String}
    (h : standard.resolve? method path = some ⟨.serverAction verb, name⟩)
    (hpath : isPlain path = true) : ∃ id, name = some id ∧ isPlain id = true ∧ isPlain verb = true ∧
      ∀ n, standard.resolve? method ("/containers/" ++ n ++ ("/" ++ verb)) =
        some ⟨.byContainer, some n⟩ := by
  obtain ⟨e, -, rfl, hpolicy, hroute, rest, hfits, hrest⟩ := exists_entry_of_resolve? h
  unfold Entry.hasContainerRoute at hroute
  rw [hpolicy] at hroute
  simp only [Bool.and_eq_true] at hroute
  obtain ⟨⟨hnamed, hverb⟩, hcontains⟩ := hroute
  cases hpattern : e.pattern with
  | exact p =>
    rw [hpattern] at hnamed
    cases hnamed
  | named head tail =>
    obtain ⟨id, -, rfl⟩ := hpattern ▸ hfits
    refine ⟨id, rfl, ?_, hverb, fun n => resolve?_container hcontains⟩
    exact Http.Target.isPlain_of_subset hpath fun c hc => hrest c (hfits.mem hc)

theorem deleteServer_of_resolve? (h : standard.resolve? method path = some ⟨.deleteServer, name⟩)
    (n : String) :
    standard.resolve? method ("/containers/" ++ n) = some ⟨.byContainer, some n⟩ := by
  obtain ⟨e, -, rfl, hpolicy, hroute, -⟩ := exists_entry_of_resolve? h
  unfold Entry.hasContainerRoute at hroute
  rw [hpolicy] at hroute
  have hresolved := resolve?_container (n := n) hroute
  rwa [String.append_empty] at hresolved

end Table

end Route

/-! ## What is passed on -/

namespace Proxy

open Http (Form.get? Request Target)
open Http.Target (beforeMarks isPlain)
open Route (Table)

/-- Only the path of the request is another; it is this one, and means this container. -/
structure ActsOn (request forwarded : Request) (path id : String) : Prop where
  same : forwarded = { request with target := forwarded.target }
  path : forwarded.target.route = path
  query : forwarded.target.query = request.target.query
  resolved : Table.standard.resolve? forwarded.method forwarded.target.route =
    some ⟨.byContainer, some id⟩

variable {setup : Setup} {r : Registry} {request forwarded : Request} {host name : Option String}
variable {text path id : String}

theorem exists_target_of_onContainer (h : onContainer r request id path = .forward host forwarded) :
    ∃ t, retarget? request.target path = .ok t ∧ host = containerHost? r id ∧
      forwarded = { request with target := t } := by
  unfold onContainer at h
  split at h
  · next t htarget =>
    injection h with hhost hforwarded
    exact ⟨t, htarget, hhost.symm, hforwarded.symm⟩
  · cases h

theorem deleteTarget?_eq_ok_iff {param : Option String} : Server.deleteTarget? param = .ok id ↔
    id.toList = Text.trimList ((param.map (·.toList)).getD []) ∧ id ≠ "" ∧ ',' ∉ id.toList := by
  unfold Server.deleteTarget?
  extract_lets ids
  constructor
  · intro h
    split at h
    · cases h
    · next hne =>
      split at h
      · cases h
      · next hcomma =>
        injection h with h
        subst h
        rw [String.toList_ofList]
        refine ⟨rfl, ?_, ?_⟩
        · rwa [ne_eq, String.ofList_eq_empty_iff, ← List.isEmpty_iff]
        · rwa [List.contains_iff_mem] at hcomma
  · rintro ⟨htrim, hne, hcomma⟩
    have hids : id.toList = ids := htrim
    have hfilled : ¬id.toList.isEmpty = true := by rwa [List.isEmpty_iff, String.toList_eq_nil_iff]
    have hsingle : ¬id.toList.contains ',' = true := by rwa [List.contains_iff_mem]
    rw [← hids, if_neg hfilled, if_neg hsingle, String.ofList_toList]

/-- A deletion whose new path can be read is passed on. -/
theorem decide_deleteServer {t : Target}
    (hfound : setup.routes.resolve? request.method request.target.route = some ⟨.deleteServer, name⟩)
    (hid : Server.deleteTarget? (Form.get? (queryParams request) "id") = .ok id) {query : String}
    (hquery : request.target.query = some query)
    (hparse : Target.parse? ("/containers/" ++ id ++ "?" ++ query) = some t) (r : Registry) :
    (decide setup r request).2 = .forward (containerHost? r id) { request with target := t } := by
  unfold decide
  simp only [hfound, decideBy, hid, onContainer, retarget?, hquery, hparse]

theorem head?_containers (s : String) : ("/containers/" ++ s).toList.head? = some '/' := by
  rw [String.toList_append]
  rfl

theorem actsOn_of_serverAction {verb : String}
    (hparse : Target.parse? text = some request.target) (hroutes : setup.routes = .standard)
    (hfound : setup.routes.resolve? request.method request.target.route =
      some ⟨.serverAction verb, name⟩)
    (hdecided : (decide setup r request).2 = .forward host forwarded) :
    ∃ id, name = some id ∧ host = containerHost? r id ∧
      ActsOn request forwarded ("/containers/" ++ id ++ "/" ++ verb) id := by
  unfold decide at hdecided
  simp only [hfound] at hdecided
  rw [hroutes] at hfound
  obtain ⟨id, rfl, hid, hverb, hresolves⟩ :=
    Table.serverAction_of_resolve? hfound (Target.isPlain_route_of_parse? hparse)
  obtain ⟨t, htarget, hhost, rfl⟩ := exists_target_of_onContainer hdecided
  rw [Option.getD_some, String.append_assoc, String.append_assoc] at htarget
  have hplain : isPlain ("/containers/" ++ (id ++ ("/" ++ verb))) = true := by
    rw [Target.isPlain_append, Target.isPlain_append, Target.isPlain_append, hverb, hid]
    rfl
  obtain ⟨hpath, hquery⟩ := (retarget?_keeps_iff htarget (head?_containers _) hparse).2 hplain
  rw [← String.append_assoc, ← String.append_assoc] at hpath
  refine ⟨id, rfl, hhost, rfl, hpath, hquery, ?_⟩
  rw [hpath, String.append_assoc]
  exact hresolves id

theorem actsOn_deleteServer_iff (hparse : Target.parse? text = some request.target)
    (hroutes : setup.routes = .standard)
    (hfound : setup.routes.resolve? request.method request.target.route = some ⟨.deleteServer, name⟩)
    (hdecided : (decide setup r request).2 = .forward host forwarded) :
    ∃ id, Server.deleteTarget? (Form.get? (queryParams request) "id") = .ok id ∧
      host = containerHost? r id ∧
      Table.standard.resolve? forwarded.method forwarded.target.route =
        some ⟨.byContainer, some (beforeMarks id)⟩ ∧
      (ActsOn request forwarded ("/containers/" ++ id) id ↔ isPlain id = true) := by
  unfold decide at hdecided
  simp only [hfound] at hdecided
  rw [hroutes] at hfound
  cases hid : Server.deleteTarget? (Form.get? (queryParams request) "id") with
  | error fault =>
    simp only [decideBy, hid] at hdecided
    cases hdecided
  | ok id =>
    simp only [decideBy, hid] at hdecided
    obtain ⟨t, htarget, hhost, rfl⟩ := exists_target_of_onContainer hdecided
    have hkeeps := retarget?_keeps_iff htarget (head?_containers id) hparse
    have hroute : t.route = "/containers/" ++ beforeMarks id := by
      rw [route_of_retarget? htarget (head?_containers id)]
      exact Target.beforeMarks_append rfl id
    have hplain : isPlain ("/containers/" ++ id) = isPlain id := by
      rw [Target.isPlain_append]
      rfl
    have hresolved : Table.standard.resolve? request.method t.route =
        some ⟨.byContainer, some (beforeMarks id)⟩ := by
      rw [hroute]
      exact Table.deleteServer_of_resolve? hfound _
    rw [hplain] at hkeeps
    refine ⟨id, rfl, hhost, hresolved, ?_⟩
    constructor
    · intro hacts
      exact hkeeps.1 ⟨hacts.path, hacts.query⟩
    · intro hid'
      obtain ⟨hpath, hquery⟩ := hkeeps.2 hid'
      rw [Target.beforeMarks_eq_self_iff.2 hid'] at hresolved
      exact ⟨rfl, hpath, hquery, hresolved⟩

/-- A request that gets a new path keeps its query, and has just that path, exactly if no query and no
fragment begins in the path; else the path ends there. An action on a server is passed on to the owner of
the container that its path names, and means that container. A deletion is passed on to the owner of the
container with its id, but means the one whose id ends where a query or a fragment begins in it. -/
theorem retargeted_requests_name_their_container
    (hparse : Target.parse? text = some request.target) (hroutes : setup.routes = .standard)
    (r : Registry) :
    (∀ path t, path.toList.head? = some '/' → retarget? request.target path = .ok t →
      t.route = beforeMarks path ∧
        ((t.route = path ∧ t.query = request.target.query) ↔ isPlain path = true)) ∧
    (∀ verb name host forwarded,
      setup.routes.resolve? request.method request.target.route = some ⟨.serverAction verb, name⟩ →
      (decide setup r request).2 = .forward host forwarded →
      ∃ id, name = some id ∧ host = containerHost? r id ∧
        ActsOn request forwarded ("/containers/" ++ id ++ "/" ++ verb) id) ∧
    (∀ name host forwarded,
      setup.routes.resolve? request.method request.target.route = some ⟨.deleteServer, name⟩ →
      (decide setup r request).2 = .forward host forwarded →
      ∃ id, Server.deleteTarget? (Form.get? (queryParams request) "id") = .ok id ∧
        host = containerHost? r id ∧
        Table.standard.resolve? forwarded.method forwarded.target.route =
          some ⟨.byContainer, some (beforeMarks id)⟩ ∧
        (ActsOn request forwarded ("/containers/" ++ id) id ↔ isPlain id = true)) := by
  refine ⟨?_, ?_, ?_⟩
  · intro path t hslash htarget
    exact ⟨route_of_retarget? htarget hslash, retarget?_keeps_iff htarget hslash hparse⟩
  · intro verb name host forwarded hfound hdecided
    exact actsOn_of_serverAction hparse hroutes hfound hdecided
  · intro name host forwarded hfound hdecided
    exact actsOn_deleteServer_iff hparse hroutes hfound hdecided

/-! ### Two deletions -/

def plainSetup : Setup := ⟨.standard, "", List.head?, "request"⟩

/-- Two containers of one host; the id of one is that of the other with a query behind it. -/
def twoContainers : Registry :=
  let record : ContainerRecord := ⟨"abc", "", "", 0, "", [], "tcp://10.0.0.5:4243", []⟩
  ((Registry.empty true).registerContainer "abc" record).registerContainer "abc?x"
    { record with id := "abc?x" }

/-- A deletion under a path. -/
def deletion (path query : String) : Request :=
  ⟨"DELETE", ⟨none, none, path, some query⟩, .http11, [], [], true, false⟩

theorem deletion_acts_on_its_container :
    (decide plainSetup twoContainers (deletion "/server" "id=abc")).2 =
        .forward (some "10.0.0.5:4243") (deletion "/containers/abc" "id=abc") ∧
      ActsOn (deletion "/server" "id=abc") (deletion "/containers/abc" "id=abc") "/containers/abc"
        "abc" := by
  have hfound : plainSetup.routes.resolve? "DELETE" "/server" = some ⟨.deleteServer, none⟩ := by
    decide +kernel
  have hparse : Target.parse? "/server?id=abc" = some (deletion "/server" "id=abc").target := by
    decide +kernel
  have hid : Server.deleteTarget? (Form.get? (queryParams (deletion "/server" "id=abc")) "id") =
      .ok "abc" :=
    deleteTarget?_eq_ok_iff.2 ⟨by decide +kernel, by decide, by decide⟩
  have howner : containerHost? twoContainers "abc" = some "10.0.0.5:4243" := by decide +kernel
  have hdecided : (decide plainSetup twoContainers (deletion "/server" "id=abc")).2 =
      .forward (containerHost? twoContainers "abc") (deletion "/containers/abc" "id=abc") :=
    decide_deleteServer hfound hid rfl (by decide +kernel) twoContainers
  rw [howner] at hdecided
  obtain ⟨id, hid', -, -, hacts⟩ :=
    (retargeted_requests_name_their_container hparse rfl twoContainers).2.2 none _ _ hfound hdecided
  rw [hid] at hid'
  injection hid' with hsame
  subst hsame
  exact ⟨hdecided, hacts.2 rfl⟩

/-- A query in the id of a deletion is taken for one of the new path: another container is deleted. -/
theorem hidden_query_acts_on_another_container :
    ¬∀ (setup : Setup) (r : Registry) (request : Request) (text : String)
        (name host : Option String) (forwarded : Request),
      setup.routes = .standard → Target.parse? text = some request.target →
      setup.routes.resolve? request.method request.target.route = some ⟨.deleteServer, name⟩ →
      (decide setup r request).2 = .forward host forwarded →
      ∃ id, Server.deleteTarget? (Form.get? (queryParams request) "id") = .ok id ∧
        host = containerHost? r id ∧ ActsOn request forwarded ("/containers/" ++ id) id := by
  intro hall
  have hfound : plainSetup.routes.resolve? "DELETE" "/server" = some ⟨.deleteServer, none⟩ := by
    decide +kernel
  have hid : Server.deleteTarget? (Form.get? (queryParams (deletion "/server" "id=abc%3Fx")) "id") =
      .ok "abc?x" :=
    deleteTarget?_eq_ok_iff.2 ⟨by decide +kernel, by decide, by decide⟩
  have hdecided : (decide plainSetup twoContainers (deletion "/server" "id=abc%3Fx")).2 =
      .forward (containerHost? twoContainers "abc?x") (deletion "/containers/abc" "x?id=abc%3Fx") :=
    decide_deleteServer hfound hid rfl (by decide +kernel) twoContainers
  obtain ⟨id, hid', -, hacts⟩ := hall plainSetup twoContainers _ "/server?id=abc%3Fx" none _ _ rfl
    (by decide +kernel) hfound hdecided
  rw [hid] at hid'
  injection hid' with hsame
  subst hsame
  have hpath : "/containers/abc" = "/containers/abc?x" := hacts.path
  exact absurd hpath (by decide)

end Proxy

end HostFleet
