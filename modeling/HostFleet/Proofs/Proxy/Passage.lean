import HostFleet.Proofs.Http.Settled
import HostFleet.Proofs.Proxy.Destination
import HostFleet.Proofs.Proxy.Opening
import HostFleet.Proofs.Proxy.Transparency

/-! # The target that a host is asked for

A tunnel passes on the target of a request as it is. A plain call writes it into a URL, which is read again
before it is sent, and not every target is the same then.

* `AsksFor`: a question begins with this method and this target.
* `Visit.target_of_forward`: the target of a request that is passed on; `Target.readParts_pathAndQuery`: it
  is read again.
* `forwarded_targets_arrive`: tunnels keep all targets, plain calls exactly the settled ones.
* `dots_name_another_container`: a container whose name has dots in it.
-/

set_option autoImplicit false

namespace HostFleet

open Http (Attempt Contact Headers Hosts Question Request Target Upgrade Url)

variable {σ : Type}

namespace Http.Target

/-- Who reads what is passed on of a target finds the path and the query again. -/
theorem readParts_pathAndQuery {t : Target} {s : List Char} (hne : t.rawPath ≠ "")
    (h : readParts s = some (t.rawPath, t.query)) :
    readParts t.pathAndQuery.toList = some (t.rawPath, t.query) := by
  obtain ⟨hpath, hquery⟩ := allowed_of_readParts h
  have hhash : ∀ c ∈ t.pathAndQuery.toList, (c != '#') = true := by
    intro c hc
    rw [toList_pathAndQuery hne] at hc
    refine bne_iff_ne.2 ?_
    rintro rfl
    rcases List.mem_append.1 hc with hc | hc
    · exact absurd (hpath _ hc) (by decide)
    · exact hash_not_mem_of_readParts h hc
  have hmark : '?' ∉ t.rawPath.toList := fun hmem => absurd (hpath _ hmem) (by decide)
  unfold readParts
  rw [List.takeWhile_eq_self_iff.2 hhash, toList_pathAndQuery hne]
  cases hq : t.query with
  | none =>
    have hempty : t.rawPath.toList ++ behindPath none = t.rawPath.toList := List.append_nil _
    simp only [hempty, Url.cutFirst_eq_none hmark, List.all_eq_true.2 hpath, String.ofList_toList]
    rfl
  | some query =>
    rw [hq] at hquery
    have hcut : Text.cutFirst '?' (t.rawPath.toList ++ behindPath (some query)) =
        some (t.rawPath.toList, query.toList) :=
      Text.cutFirst_eq_some_iff.2 ⟨rfl, hmark⟩
    simp only [hcut, List.all_eq_true.2 hpath, String.ofList_toList]
    simpa using hquery

end Http.Target

namespace Proxy

/-! ## Targets -/

/-- The question begins with this method and this target. -/
def AsksFor (method target : String) : Question → Prop
  | .request sent => sent.method = method ∧ sent.target = target
  | .raw bytes =>
    ∃ behind, bytes = Bytes.ofText (method ++ " " ++ target ++ " HTTP/1.1") ++ (lineEnd ++ behind)

section Ways
variable {name : String} {request : Request} {later : Bytes} {attempt : Attempt} {question : Question}

theorem asksFor_of_tcp (h : (tcpAttempt name request later).question = some question) :
    AsksFor request.method request.target.pathAndQuery question := by
  obtain ⟨opening, hopening, rfl⟩ := Option.map_eq_some_iff.1 h
  have hhead : ∃ behind, opening = requestHead name request ++ behind := by
    unfold tunnelOpening? at hopening
    split at hopening
    · injection hopening with hopening
      exact ⟨[], by rw [← hopening, List.append_nil]⟩
    · split at hopening
      · cases hopening
      · injection hopening with hopening
        exact ⟨request.body, hopening.symm⟩
  obtain ⟨behind, rfl⟩ := hhead
  unfold requestHead
  simp only [AsksFor, List.append_assoc, List.append_cancel_left_eq, exists_eq']

theorem asksFor_of_webSocket (h : (webSocketAttempt name request).question = some question) :
    AsksFor request.method request.target.pathAndQuery question := by
  obtain ⟨sent, hsent, rfl⟩ := Option.map_eq_some_iff.1 h
  obtain ⟨body, -, rfl⟩ := Option.map_eq_some_iff.1 hsent
  exact ⟨rfl, rfl⟩

theorem target_authorized (c : Http.Call) : c.authorized.url.target = c.url.target := by
  unfold Http.Call.authorized
  split <;> rfl

/-- A plain call asks for the target of the URL that is made of it. -/
theorem asksFor_iff_of_call {url : Url}
    (h : (callOf url request).authorized.sent?.map Question.request = some question) (target : String) :
    AsksFor request.method target question ↔ url.target = target.toList := by
  obtain ⟨sent, hsent, rfl⟩ := Option.map_eq_some_iff.1 h
  rw [sent?_callOf] at hsent
  obtain ⟨body, -, rfl⟩ := Option.map_eq_some_iff.1 hsent
  simp only [AsksFor, target_authorized, true_and]
  rw [← String.toList_inj, String.toList_ofList]
  rfl

/-! ### Complete bodies -/

theorem framed?_ne_none {headers : Headers} {bytes : Bytes} (unannounced : Bytes)
    (h : ∀ n, headers.contentLength? = some n → n ≤ bytes.length) :
    Http.Payload.sent?.framed? headers bytes unannounced ≠ none := by
  unfold Http.Payload.sent?.framed?
  split
  · exact Option.some_ne_none _
  · split
    · next n hannounced =>
      rw [if_neg (Nat.not_lt.2 (h n hannounced))]
      exact Option.some_ne_none _
    · exact Option.some_ne_none _

theorem tcp_question_ne_none (h : IsComplete request) :
    (tcpAttempt name request later).question ≠ none := by
  have hopening : ∃ opening, tunnelOpening? name request = .ok opening := by
    unfold tunnelOpening?
    rw [h.whole, if_neg Bool.false_ne_true]
    split <;> exact ⟨_, rfl⟩
  obtain ⟨opening, hopening⟩ := hopening
  unfold tcpAttempt
  rw [hopening]
  exact Option.some_ne_none _

theorem webSocket_question_ne_none (h : IsComplete request) :
    (webSocketAttempt name request).question ≠ none := by
  have hbody : (knownBody request).sent? request.method request.headers ≠ none := by
    unfold knownBody
    rw [h.whole, if_neg Bool.false_ne_true]
    split
    · exact framed?_ne_none _ h.long
    · split
      · exact Option.some_ne_none _
      · exact framed?_ne_none _ h.long
  unfold webSocketAttempt webSocketRequest?
  rwa [Ne, Option.map_eq_none_iff, Option.map_eq_none_iff]

theorem call_question_ne_none (url : Url) (h : IsComplete request) :
    (callOf url request).authorized.sent?.map Question.request ≠ none := by
  obtain ⟨sent, hsent⟩ := exists_sent?_callOf url h
  rw [hsent]
  exact Option.some_ne_none _

end Ways

/-- Something is left of the name of a usable host when it is read in a URL. -/
theorem kept_ne_nil_of_usableHost? {host : Option String} {name : String}
    (h : usableHost? host = some name) : Url.kept name.toList ≠ [] := by
  unfold usableHost? at h
  obtain ⟨hname, hne⟩ := Option.filter_eq_some_iff.1 h
  obtain ⟨text, -, rfl⟩ := Option.map_eq_some_iff.1 hname
  rw [Bool.not_eq_true', ← Bool.not_eq_true, String.isEmpty_iff] at hne
  unfold Text.trim at hne ⊢
  rw [String.ofList_eq_empty_iff] at hne
  rw [String.toList_ofList]
  obtain ⟨front, last, htrim, hlast⟩ := (trimList_cases text.toList).resolve_left hne
  have hkept : Url.isKept last = true := by
    unfold Url.isKept
    rw [Bool.not_eq_true', Bool.or_eq_false_iff, Bool.or_eq_false_iff]
    refine ⟨⟨?_, ?_⟩, ?_⟩ <;>
    · refine beq_false_of_ne ?_
      rintro rfl
      exact absurd hlast (by decide)
  have hmem : last ∈ Url.kept (Text.trimList text.toList) := by
    rw [htrim]
    exact List.mem_filter.2 ⟨List.mem_append_right front List.mem_cons_self, hkept⟩
  exact List.ne_nil_of_mem hmem

/-- The target of a request that is passed on begins with a word, and is read by the rules for targets. -/
theorem Visit.target_of_forward {v : Visit σ} {host : Option String} {request : Request} {text : String}
    (hroutes : v.setup.routes = .standard) (hparse : Target.parse? text = some v.request.target)
    (h : v.decision = .forward host request) :
    Url.BeginsWithWord request.target.rawPath.toList ∧
      ∃ s, Target.readParts s = some (request.target.rawPath, request.target.query) := by
  unfold Visit.decision decide at h
  split at h
  · next found hfound =>
    rw [hroutes] at hfound
    have hword := Target.beginsWithWord_rawPath (Route.beginsWithWord_of_resolve? hfound)
    have hparts := Target.exists_readParts_of_parse? hparse
    obtain heq | ⟨form, hform⟩ | ⟨id, rest, hcontainer⟩ := request_of_forward h
    · exact heq ▸ ⟨hword, hparts⟩
    · rw [(formParams?_ok hform).1]
      exact ⟨hword, hparts⟩
    · obtain ⟨target, htarget, -, rfl⟩ := exists_target_of_onContainer hcontainer
      have hcontainers := beginsWithWord_containers rest
      have hslash : ("/containers/" ++ rest).toList.head? = some '/' := by
        rw [String.toList_append]
        rfl
      exact ⟨beginsWithWord_of_retarget? htarget hcontainers, _, readParts_of_retarget? htarget hslash⟩
  · cases h

/-- Behind a host that is no more than that, the target of the URL is the one passed on only if it is settled. -/
theorem target_eq_iff_isSettled {name : String} {request : Request} {url : Url} {s : List Char}
    (hname : ∀ c ∈ name.toList, Url.isEnd c = false) (hkept : Url.kept name.toList ≠ [])
    (hword : Url.BeginsWithWord request.target.rawPath.toList)
    (hparts : Target.readParts s = some (request.target.rawPath, request.target.query))
    (hurl : Url.parse? (urlText name request) = some url) :
    url.target = request.target.pathAndQuery.toList ↔
      Url.IsSettled request.target.rawPath.toList request.target.query := by
  obtain ⟨hpath, hquery⟩ := Target.allowed_of_readParts hparts
  have htarget := Target.toList_pathAndQuery (Target.rawPath_ne_empty hword)
  obtain ⟨word, behind, hraw, -⟩ := hword
  rw [hraw, List.cons_append] at htarget
  have htext : (urlText name request).toList = Url.webMark ++ name.toList ++
      '/' :: ((word ++ behind) ++ Target.behindPath request.target.query) := by
    unfold urlText
    rw [String.toList_append, String.toList_append, htarget]
    rfl
  rw [htarget, hraw]
  exact Url.target_eq_iff hname hkept
    (fun c hc => hpath c (hraw ▸ List.mem_cons_of_mem '/' hc)) hquery htext hurl

/-- A tunnel dials the text of the host as it is, and opens with the target of the request. -/
theorem of_tunnel {upgrade : Upgrade} {name : String} {request : Request} {later : Bytes}
    {attempt : Attempt} (h : (Plan.tunnel upgrade name request).attempt? later = some attempt) :
    attempt.place = .text name ∧ (IsComplete request → attempt.question ≠ none) ∧
      ∀ question ∈ attempt.question,
        AsksFor request.method request.target.pathAndQuery question := by
  cases upgrade with
  | tcp =>
    injection h with h
    subst h
    exact ⟨rfl, tcp_question_ne_none, fun question => asksFor_of_tcp⟩
  | webSocket =>
    injection h with h
    subst h
    exact ⟨rfl, webSocket_question_ne_none, fun question => asksFor_of_webSocket⟩

/-- A request that is passed on is one attempt at most, and that is all that is done among hosts; nothing is
attempted only for a URL that cannot be asked for, and a complete body is no reason to ask nothing. A tunnel
dials the text of the host, and opens with the method and the target of the request as they are, whatever stands
in them. A plain call dials the place of its URL, keeps the method and asks for the target of the URL; where the
host is no more than that, this is the target of the request exactly if it is settled. Path and query are read
again from the target that is passed on. -/
theorem forwarded_targets_arrive {v : Visit σ} {host : Option String} {request : Request} {text : String}
    (hroutes : v.setup.routes = .standard) (hparse : Target.parse? text = some v.request.target)
    (hforward : v.decision = .forward host request) :
    Target.readParts request.target.pathAndQuery.toList =
        some (request.target.rawPath, request.target.query) ∧
      v.contacts = v.hosts.trace v.state ((plan host request).attempt? v.later) ∧
      v.served.state = v.hosts.after v.state ((plan host request).attempt? v.later) ∧
      v.recorded.served.delivery = v.served.delivery ∧
      ((plan host request).attempt? v.later = none →
        (∃ response, plan host request = .answer response) ∨
          ∃ name, usableHost? host = some name ∧ Upgrade.requested? request.headers = none ∧
            ∀ url, Url.parse? (urlText name request) = some url → url.isTarget = false) ∧
      ∀ attempt ∈ (plan host request).attempt? v.later, ∃ name, usableHost? host = some name ∧
        (IsComplete request → attempt.question ≠ none) ∧
        (Upgrade.requested? request.headers ≠ none → attempt.place = .text name ∧
          ∀ question ∈ attempt.question,
            AsksFor request.method request.target.pathAndQuery question) ∧
        (Upgrade.requested? request.headers = none → ∃ url, Url.parse? (urlText name request) = some url ∧
          attempt.place = url.place ∧ ∀ question ∈ attempt.question,
            AsksFor request.method (String.ofList url.target) question ∧
            ((∀ c ∈ name.toList, Url.isEnd c = false) →
              (AsksFor request.method request.target.pathAndQuery question ↔
                Url.IsSettled request.target.rawPath.toList request.target.query))) := by
  obtain ⟨hword, s, hparts⟩ := Visit.target_of_forward hroutes hparse hforward
  refine ⟨Target.readParts_pathAndQuery (Target.rawPath_ne_empty hword) hparts,
    Visit.contacts_of_forward hforward, Visit.state_of_forward hforward, v.served_recorded.2.2.1, ?_⟩
  rcases plan_cases host request with
    ⟨response, hplan⟩ | ⟨name, hname, ⟨hplain, hplan⟩ | ⟨upgrade, hupgrade, hplan⟩⟩
  · rw [hplan]
    exact ⟨fun _ => .inl ⟨response, rfl⟩, nofun⟩
  · rw [hplan]
    refine ⟨fun hnone => .inr ⟨name, hname, hplain, callAttempt?_eq_none_iff.1 hnone⟩,
      fun attempt hattempt => ⟨name, hname, ?_⟩⟩
    obtain ⟨url, hurl, -, rfl⟩ := callAttempt?_eq_some_iff.1 hattempt
    refine ⟨call_question_ne_none url, fun hasked => absurd hplain hasked,
      fun _ => ⟨url, hurl, rfl, fun question hquestion => ⟨?_, fun hends => ?_⟩⟩⟩
    · rw [asksFor_iff_of_call hquestion, String.toList_ofList]
    · rw [asksFor_iff_of_call hquestion]
      exact target_eq_iff_isSettled hends (kept_ne_nil_of_usableHost? hname) hword hparts hurl
  · rw [hplan]
    refine ⟨fun hnone => ?_, fun attempt hattempt => ⟨name, hname, ?_⟩⟩
    · cases upgrade <;> cases hnone
    obtain ⟨hplace, hcomplete, hasks⟩ := of_tunnel hattempt
    refine ⟨hcomplete, fun _ => ⟨hplace, hasks⟩, fun hplain => ?_⟩
    rw [hplain] at hupgrade
    cases hupgrade

theorem kill_arrives :
    (asking [] kill).setup.routes = .standard ∧
      Target.parse? "/containers/abc/kill" = some (asking [] kill).request.target ∧
      (asking [] kill).decision = .forward (some "127.66.0.1:4243") kill ∧
      ∃ place question, (asking [] kill).contacts = [.dialled place, .asked place question] ∧
        AsksFor "POST" "/containers/abc/kill" question := by
  have hparse : Target.parse? "/containers/abc/kill" = some (asking [] kill).request.target := by
    decide +kernel
  have hdecision : (asking [] kill).decision = .forward (some "127.66.0.1:4243") kill := rfl
  have hasked : (asking [] kill).contacts.any Contact.isAsked = true := by decide +kernel
  refine ⟨rfl, hparse, hdecision, ?_⟩
  obtain ⟨-, hcontacts, -, -, -, heach⟩ := forwarded_targets_arrive rfl hparse hdecision
  obtain ⟨_ | ⟨place, question⟩, hcontact, hquestion⟩ := List.any_eq_true.1 hasked
  · cases hquestion
  rw [hcontacts] at hcontact
  obtain ⟨hattempt, hreached⟩ := Hosts.asked_mem_trace_iff.1 hcontact
  obtain ⟨name, hname, -, -, hplain⟩ := heach _ hattempt
  obtain ⟨url, -, -, hasks⟩ := hplain rfl
  have hhost : usableHost? (some "127.66.0.1:4243") = some "127.66.0.1:4243" := by decide +kernel
  rw [hhost] at hname
  injection hname with hname
  subst hname
  have hends : ("127.66.0.1:4243".toList.any Url.isEnd) = false := by decide +kernel
  have hsettled : Url.IsSettled kill.target.rawPath.toList kill.target.query := by decide +kernel
  refine ⟨place, question, ?_, ((hasks question rfl).2 fun c hc => ?_).2 hsettled⟩
  · rw [hcontacts, hattempt]
    simp [Hosts.trace, hreached]
  · exact Bool.eq_false_iff.2 (List.any_eq_false.1 hends c hc)

/-- An inspection of a container whose name has dots in it, beside another container on another host. -/
def dotted (headers : Headers) : Visit Rehearsal.Scene :=
  { asking [] { inspect with
      target := ⟨none, none, "/containers/x/../abc/json", none⟩
      version := .http11
      headers } with
    registry := (Registry.empty true).run
      [.registerContainer "x/../abc" ⟨"x/../abc", "", "", 0, "", [], "tcp://127.66.0.1:4243", []⟩,
        .registerContainer "abc" ⟨"abc", "", "", 0, "", [], "tcp://127.66.0.2:4243", []⟩] }

/-- The targets of the requests among some contacts. -/
def targetsOf (contacts : List Contact) : List String :=
  contacts.filterMap fun
    | .asked _ (.request sent) => some sent.target
    | .asked _ (.raw _) | .dialled _ => none

/-- The host of one container is asked for another one; in a tunnel it is asked for its own. -/
theorem dots_name_another_container :
    Target.parse? "/containers/x/../abc/json" = some (dotted []).request.target ∧
      (dotted []).setup.routes.resolve? "GET" "/containers/x/../abc/json" =
        some ⟨.byContainer, some "x/../abc"⟩ ∧
      (dotted []).decision = .forward (some "127.66.0.1:4243") (dotted []).request ∧
      targetsOf (dotted []).contacts = ["/containers/abc/json"] ∧
      (dotted []).setup.routes.resolve? "GET" "/containers/abc/json" =
        some ⟨.byContainer, some "abc"⟩ ∧
      (¬∀ place question, .asked place question ∈ (dotted []).contacts →
        AsksFor "GET" "/containers/x/../abc/json" question) ∧
      ∃ question, (dotted tunnelHeaders).contacts =
          [.dialled (.text "127.66.0.1:4243"), .asked (.text "127.66.0.1:4243") question] ∧
        AsksFor "GET" "/containers/x/../abc/json" question := by
  have htargets : targetsOf (dotted []).contacts = ["/containers/abc/json"] := by decide +kernel
  refine ⟨by decide +kernel, by decide +kernel, rfl, htargets, by decide +kernel, ?plain, ?tunnel⟩
  case plain =>
    intro hall
    have hmem : "/containers/abc/json" ∈ targetsOf (dotted []).contacts := by
      rw [htargets]
      exact List.mem_singleton_self _
    obtain ⟨_ | ⟨place, sent | bytes⟩, hcontact, htarget⟩ := List.mem_filterMap.1 hmem
    · cases htarget
    · injection htarget with htarget
      exact absurd ((hall place _ hcontact).2.symm.trans htarget) (by decide)
    · cases htarget
  case tunnel =>
    have hdecision : (dotted tunnelHeaders).decision =
        .forward (some "127.66.0.1:4243") (dotted tunnelHeaders).request := rfl
    have hplan : plan (some "127.66.0.1:4243") (dotted tunnelHeaders).request =
        .tunnel .tcp "127.66.0.1:4243" (dotted tunnelHeaders).request := rfl
    have hquestion : ∃ question,
        (tcpAttempt "127.66.0.1:4243" (dotted tunnelHeaders).request []).question =
          some question := ⟨_, rfl⟩
    obtain ⟨question, hquestion⟩ := hquestion
    have hreached : ((dotted tunnelHeaders).hosts.dial (dotted tunnelHeaders).state
        (.text "127.66.0.1:4243")).2 = true := by decide +kernel
    refine ⟨question, ?_, asksFor_of_tcp hquestion⟩
    have hattempt : (Plan.tunnel .tcp "127.66.0.1:4243" (dotted tunnelHeaders).request).attempt? [] =
        some ⟨.text "127.66.0.1:4243", some question⟩ := by
      rw [← hquestion]
      rfl
    have hlater : (dotted tunnelHeaders).later = [] := rfl
    rw [Visit.contacts_of_forward hdecision, hplan, hlater, hattempt]
    simp [Hosts.trace, hreached]

end Proxy

end HostFleet
