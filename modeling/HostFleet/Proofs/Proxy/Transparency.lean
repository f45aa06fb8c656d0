import HostFleet.Proofs.Http.Framing
import HostFleet.Proofs.Proxy.Contact
import HostFleet.Registry.Operation
import HostFleet.Rehearsal.Hosts
import Mathlib.Data.List.TakeDrop

/-! # What passes through a plain call

A request that is passed on without another protocol is made anew for its host, and so is the answer for
the client. Neither is read on the way.

* `Headers.values_without`, `Call.values_sentHeaders_of_has`: what becomes of the lines of a name.
* `IsComplete`: the body came as it was announced; `IsCarried`: it is not cut on its way to the host.
* `Conveys`, `Relays`: what the host gets of a request, and the client of an answer.
* `isComplete_of_next`, `isCarried_of_next`: the two for a request that was read from a connection.
* `Asks`: a plain call can be made, and its place is reached.
* `plain_calls_convey`: a plain call asks at one place once, or nowhere if it cannot be made.
* `two_bodies_do_not_arrive`: a body that is not sent, and one that is cut.
-/

set_option autoImplicit false

namespace HostFleet

open Http (Answer Call Contact Headers Hosts Inbound Payload Request Response Sent Url)

namespace Http

/-! ## Lines that are added -/

namespace Call

variable {h : Headers} {name other : String} {value : Bytes} {c : Call}

theorem values_orElse_of_ne (hne : name ≠ other) :
    (orElse h other value).values name = h.values name := by
  unfold orElse
  split
  · rfl
  · unfold Headers.values
    rw [List.filter_cons_of_neg (by simpa using hne.symm)]

/-- Only a name without lines gets one. -/
theorem values_orElse_of_has (hhas : h.has name = true) :
    (orElse h other value).values name = h.values name := by
  by_cases heq : name = other
  · subst heq
    unfold orElse
    rw [if_pos hhas]
  · exact values_orElse_of_ne heq

theorem values_orElse_self (hnone : h.has name = false) :
    (orElse h name value).values name = [value] := by
  unfold orElse
  rw [hnone, if_neg Bool.false_ne_true]
  unfold Headers.values
  rw [List.filter_cons_of_pos (by simp), List.map_cons]
  exact congrArg _ (Headers.has_eq_false_iff.1 hnone)

theorem has_orElse_of_has (hhas : h.has name = true) : (orElse h other value).has name = true :=
  (Headers.has_congr (values_orElse_of_has hhas)).trans hhas

/-! ## Calls -/

theorem method_authorized (c : Call) : c.authorized.method = c.method := by
  unfold authorized
  split <;> rfl

theorem payload_authorized (c : Call) : c.authorized.payload = c.payload := by
  unfold authorized
  split <;> rfl

theorem isTarget_authorized (c : Call) : c.authorized.url.isTarget = c.url.isTarget := by
  unfold authorized
  split <;> rfl

theorem place_authorized (c : Call) : c.authorized.url.place = c.url.place := by
  unfold authorized
  split <;> rfl

theorem authorityText_authorized (c : Call) :
    c.authorized.url.authorityText = c.url.authorityText := by
  unfold authorized
  split <;> rfl

theorem values_authorized_of_ne (hne : name ≠ "authorization") :
    c.authorized.headers.values name = c.headers.values name := by
  unfold authorized
  split
  · rfl
  · exact values_orElse_of_ne hne

theorem values_authorized_of_has (hhas : c.headers.has name = true) :
    c.authorized.headers.values name = c.headers.values name := by
  unfold authorized
  split
  · rfl
  · exact values_orElse_of_has hhas

/-- The names that a client of the calls may add. -/
def addedNames : List String := ["authorization", "accept", "host"]

/-- No line is added to a name that has one. -/
theorem values_sentHeaders_of_has (hhas : c.headers.has name = true) :
    c.authorized.sentHeaders.values name = c.headers.values name := by
  have hvalues := values_authorized_of_has hhas
  have hhas' : c.authorized.headers.has name = true := (Headers.has_congr hvalues).trans hhas
  unfold sentHeaders
  rw [values_orElse_of_has (has_orElse_of_has hhas'), values_orElse_of_has hhas', hvalues]

theorem values_sentHeaders_of_not_added (hname : name ∉ addedNames) :
    c.authorized.sentHeaders.values name = c.headers.values name := by
  simp only [addedNames, List.mem_cons, List.not_mem_nil, or_false, not_or] at hname
  obtain ⟨hauthorization, haccept, hhost⟩ := hname
  unfold sentHeaders
  rw [values_orElse_of_ne hhost, values_orElse_of_ne haccept, values_authorized_of_ne hauthorization]

theorem values_host_sentHeaders (hnone : c.headers.has "host" = false) :
    c.authorized.sentHeaders.values "host" = [Bytes.ofText c.url.authorityText] := by
  have hvalues : (orElse c.authorized.headers "accept" (Bytes.ofText "*/*")).values "host" =
      c.headers.values "host" := by
    rw [values_orElse_of_ne (by decide), values_authorized_of_ne (by decide)]
  unfold sentHeaders
  rw [values_orElse_self ((Headers.has_congr hvalues).trans hnone), authorityText_authorized]

end Call

end Http

namespace Proxy

variable {σ : Type}

/-! ## Bodies -/

/-- The body came to its end, and is not shorter than it was announced. -/
structure IsComplete (request : Request) : Prop where
  whole : request.broken = false
  long : ∀ n, request.headers.contentLength? = some n → n ≤ request.body.length

/-- The body is not longer than it was announced; without an announcement it goes with the methods that
may have one. -/
def IsCarried (request : Request) : Prop :=
  match request.headers.contentLength? with
  | some n => request.body.length ≤ n
  | none => request.method ∈ Http.bodiless → request.body = []

section Wire

variable {bytes : Bytes} {request : Request}

theorem isComplete_of_next (h : (Inbound.next bytes).request? = some request) :
    IsComplete request ↔ request.broken = false := by
  refine ⟨IsComplete.whole, fun hwhole => ⟨hwhole, fun n hn => ?_⟩⟩
  exact Nat.le_of_eq ((Inbound.length_body_of_next h hn).2 hwhole).symm

/-- What is read from a connection is never longer than it was announced. -/
theorem isCarried_of_next (h : (Inbound.next bytes).request? = some request) :
    IsCarried request ↔ (request.headers.contentLength? = none →
      request.method ∈ Http.bodiless → request.body = []) := by
  unfold IsCarried
  split
  · next n hannounced =>
    rw [hannounced]
    exact ⟨fun _ => nofun, fun _ => (Inbound.length_body_of_next h hannounced).1⟩
  · next hnone =>
    rw [hnone]
    exact ⟨fun hbody _ => hbody, fun hbody => hbody rfl⟩

end Wire

section Streamed

variable {request : Request} {headers : Headers} {body : Bytes}

theorem sent?_stream (hcoded : headers.has "transfer-encoding" = false) (method : String)
    (bytes : Bytes) :
    (Payload.stream bytes).sent? method headers =
      match headers.contentLength? with
      | some n => if bytes.length < n then none else some (bytes.take n)
      | none => some (if Http.bodiless.contains method then [] else bytes) := by
  show Payload.sent?.framed? headers bytes _ = _
  unfold Payload.sent?.framed?
  rw [hcoded]
  exact if_neg Bool.false_ne_true

theorem eq_body_iff_of_stream (hcoded : headers.has "transfer-encoding" = false)
    (hlength : headers.contentLength? = request.headers.contentLength?)
    (h : (Payload.stream request.body).sent? request.method headers = some body) :
    body = request.body ↔ IsCarried request := by
  unfold IsCarried
  rw [sent?_stream hcoded] at h
  rw [← hlength]
  cases hannounced : headers.contentLength? with
  | some n =>
    rw [hannounced] at h
    simp only [Option.ite_none_left_eq_some, Option.some.injEq] at h
    obtain ⟨-, rfl⟩ := h
    exact List.take_eq_self_iff request.body
  | none =>
    rw [hannounced] at h
    injection h with h
    subst h
    split
    · next hbodiless =>
      have hmethod := List.contains_iff_mem.1 hbodiless
      exact ⟨fun hbody _ => hbody.symm, fun hbody => (hbody hmethod).symm⟩
    · next hbodiless =>
      exact ⟨fun _ hmethod => absurd (List.contains_iff_mem.2 hmethod) hbodiless, fun _ => rfl⟩

/-- Of a body that does not end nothing is sent, and that only where no body is expected. -/
theorem eq_body_iff_of_broken (hlength : headers.contentLength? = request.headers.contentLength?)
    (h : Payload.broken.sent? request.method headers = some body) :
    body = request.body ↔ IsCarried request := by
  unfold IsCarried
  change (if _ then none else some []) = some body at h
  split at h
  · cases h
  · next hunsent =>
    injection h with h
    subst h
    simp only [Bool.or_eq_true, Bool.not_eq_true', not_or, Bool.not_eq_false,
      List.contains_iff_mem] at hunsent
    rw [← hlength, Headers.contentLength?_of_not_has (Bool.eq_false_iff.2 hunsent.1.2)]
    exact ⟨fun hbody _ => hbody.symm, fun hbody => (hbody hunsent.2).symm⟩

/-- A body that is sent is the one that came, if it is carried, and otherwise it is not. -/
theorem eq_body_iff_of_streamed (hcoded : headers.has "transfer-encoding" = false)
    (hlength : headers.contentLength? = request.headers.contentLength?)
    (h : (streamed request).sent? request.method headers = some body) :
    body = request.body ↔ IsCarried request := by
  unfold streamed at h
  split at h
  · exact eq_body_iff_of_broken hlength h
  · split at h
    · next hempty =>
      injection h with h
      subst h
      have hnil : request.body = [] := List.isEmpty_iff.1 (Bool.and_eq_true_iff.1 hempty).2
      unfold IsCarried
      rw [hnil]
      cases request.headers.contentLength? <;> simp
    · exact eq_body_iff_of_stream hcoded hlength h

theorem exists_sent?_streamed (hcoded : headers.has "transfer-encoding" = false)
    (hlength : headers.contentLength? = request.headers.contentLength?)
    (hcomplete : IsComplete request) :
    ∃ body, (streamed request).sent? request.method headers = some body := by
  unfold streamed
  rw [hcomplete.whole, if_neg Bool.false_ne_true]
  split
  · exact ⟨[], rfl⟩
  · rw [sent?_stream hcoded, hlength]
    cases hannounced : request.headers.contentLength? with
    | none => exact ⟨_, rfl⟩
    | some n =>
      have hlong := hcomplete.long n hannounced
      simp only [if_neg (Nat.not_lt.2 hlong)]
      exact ⟨_, rfl⟩

end Streamed

/-! ## Requests and answers -/

/-- A request that is passed on for another one: only its path may be another. -/
structure StandsFor (request original : Request) : Prop where
  method : request.method = original.method
  headers : request.headers = original.headers
  body : request.body = original.body
  broken : request.broken = original.broken

theorem StandsFor.refl (request : Request) : StandsFor request request := ⟨rfl, rfl, rfl, rfl⟩

theorem standsFor_onContainer {r : Registry} {original request : Request} {id path : String}
    {host : Option String} (h : onContainer r original id path = .forward host request) :
    StandsFor request original := by
  unfold onContainer at h
  split at h
  · injection h with hhost hrequest
    subst hrequest
    exact ⟨rfl, rfl, rfl, rfl⟩
  · cases h

/-- Also a form that was read for its fields is passed on with its body. -/
theorem standsFor_formParams {original request : Request} {form : Params}
    (h : formParams? original = .ok (request, form)) : StandsFor request original := by
  unfold formParams? at h
  split at h
  · injection h with h
    injection h with hrequest
    subst hrequest
    exact .refl original
  · cases hbody : readBody? original with
    | error fault =>
      rw [hbody] at h
      cases h
    | ok body =>
      rw [hbody] at h
      injection h with h
      injection h with hrequest
      subst hrequest
      exact ⟨rfl, rfl, rfl, rfl⟩

theorem createServer_ne_forward (setup : Setup) (r : Registry) (original : Request)
    (host : Option String) (request : Request) :
    (createServer setup r original).2 ≠ .forward host request := by
  unfold createServer
  split
  · exact nofun
  · split
    · exact nofun
    · split <;> exact nofun

/-- What is passed on is the request itself, that with a form that was read, or that to a container. -/
theorem request_of_forward {setup : Setup} {r : Registry} {original request : Request}
    {policy : Route.Policy} {name : String} {host : Option String}
    (h : (decideBy setup r original policy name).2 = .forward host request) :
    request = original ∨ (∃ form, formParams? original = .ok (request, form)) ∨
      ∃ id rest, onContainer r original id ("/containers/" ++ rest) = .forward host request := by
  have hsame : ∀ {host' : Option String} {P : Prop},
      Decision.forward host' original = .forward host request → request = original ∨ P := by
    intro host' P h
    injection h with hhost hrequest
    exact .inl hrequest.symm
  unfold decideBy at h
  cases policy with
  | explicitHost => exact hsame h
  | hostOrRandom => exact hsame h
  | listImages =>
    dsimp only at h
    split at h
    · exact hsame h
    · cases h
  | listContainers =>
    dsimp only at h
    split at h
    · exact hsame h
    · cases h
  | byImage => exact hsame h
  | byContainer => exact hsame h
  | commit =>
    dsimp only at h
    split at h
    · cases h
    · next form hform =>
      injection h with hhost hrequest
      subst hrequest
      exact .inr (.inl ⟨form, hform⟩)
  | createContainer => exact hsame h
  | listControllers => cases h
  | listRuntimeHosts => cases h
  | listAgents => cases h
  | createServer => exact absurd h (createServer_ne_forward setup r original host request)
  | deleteServer =>
    dsimp only at h
    split at h
    · cases h
    · next id hid => exact .inr (.inr ⟨id, id, h⟩)
  | serverAction action =>
    refine .inr (.inr ⟨name, name ++ ("/" ++ action), ?_⟩)
    rw [← String.append_assoc, ← String.append_assoc]
    exact h

theorem standsFor_decideBy {setup : Setup} {r : Registry} {original request : Request}
    {policy : Route.Policy} {name : String} {host : Option String}
    (h : (decideBy setup r original policy name).2 = .forward host request) :
    StandsFor request original := by
  obtain rfl | ⟨form, hform⟩ | ⟨id, rest, hcontainer⟩ := request_of_forward h
  · exact .refl request
  · exact standsFor_formParams hform
  · exact standsFor_onContainer hcontainer

theorem Visit.standsFor {v : Visit σ} {host : Option String} {request : Request}
    (h : v.decision = .forward host request) : StandsFor request v.request := by
  unfold Visit.decision decide at h
  split at h
  · exact standsFor_decideBy h
  · cases h

/-- What a host gets of a client's request: the method, all lines but those of the client's connection,
and the body, unless it is not carried. -/
structure Conveys (request : Request) (url : Url) (sent : Sent) : Prop where
  method : sent.method = request.method
  values : ∀ name ∉ "host" :: Headers.hopByHop, request.headers.has name = true →
    sent.headers.values name = request.headers.values name
  stripped : ∀ name ∈ Headers.hopByHop, sent.headers.values name = []
  host : sent.headers.values "host" = [Bytes.ofText url.authorityText]
  added : ∀ name ∉ Call.addedNames, request.headers.has name = false →
    sent.headers.values name = []
  body : sent.body = request.body ↔ IsCarried request

/-- What a client gets of a host's answer, a redirection included: the status, all lines but those of the
host's connection, and the body, unless the answer announces less than it has. -/
structure Relays (request : Request) (answer response : Response) : Prop where
  status : response.status = answer.status
  values : ∀ name ∉ Headers.hopByHop, response.headers.values name = answer.headers.values name
  stripped : ∀ name ∈ Headers.hopByHop, response.headers.values name = []
  body : response.body = answer.body
  broken : response.broken = answer.broken
  written : Http.hasBody request.method answer.status = true →
    (Inbound.writtenBody request response = answer.body ↔
      ∀ n, answer.headers.contentLength? = some n → answer.body.length ≤ n)

theorem relays_relay (request : Request) (answer : Response) :
    Relays request answer (relay answer) := by
  have hvalues : ∀ name ∉ Headers.hopByHop,
      (relay answer).headers.values name = answer.headers.values name := by
    intro name hname
    exact (Headers.values_without answer.headers Headers.hopByHop name).trans (if_neg hname)
  have hlength : (relay answer).headers.contentLength? = answer.headers.contentLength? :=
    Headers.contentLength?_congr (hvalues "content-length" (by decide))
  refine ⟨rfl, hvalues, ?_, rfl, rfl, ?_⟩
  · intro name hname
    exact (Headers.values_without answer.headers Headers.hopByHop name).trans (if_pos hname)
  · intro hbody
    have hstatus : Http.hasBody request.method (relay answer).status = true := hbody
    unfold Inbound.writtenBody
    rw [hstatus, hlength]
    cases answer.headers.contentLength? with
    | none => simp [relay]
    | some n => simp [relay]

theorem values_callOf (url : Url) (request : Request) (name : String) :
    (callOf url request).headers.values name =
      if name ∈ "host" :: Headers.hopByHop then [] else request.headers.values name := by
  unfold callOf Headers.endToEnd
  rw [Headers.values_without, Headers.values_without]
  by_cases hhost : name = "host"
  · rw [if_pos (List.mem_singleton.2 hhost), if_pos (List.mem_cons.2 (.inl hhost))]
  · rw [if_neg (mt List.mem_singleton.1 hhost)]
    by_cases hhop : name ∈ Headers.hopByHop
    · rw [if_pos hhop, if_pos (List.mem_cons_of_mem _ hhop)]
    · rw [if_neg hhop, if_neg fun h => (List.mem_cons.1 h).elim hhost hhop]

section Call

variable {url : Url} {request original : Request} {sent : Sent}

theorem has_callOf_of_mem {name : String} (hname : name ∈ "host" :: Headers.hopByHop) :
    (callOf url request).headers.has name = false :=
  Headers.has_eq_false_iff.2 ((values_callOf url request name).trans (if_pos hname))

theorem contentLength?_callOf :
    (callOf url request).authorized.headers.contentLength? = request.headers.contentLength? := by
  refine Headers.contentLength?_congr ?_
  rw [Call.values_authorized_of_ne (by decide), values_callOf, if_neg (by decide)]

theorem not_coded_callOf :
    (callOf url request).authorized.headers.has "transfer-encoding" = false := by
  have hcall : (callOf url request).headers.has "transfer-encoding" = false :=
    has_callOf_of_mem (by decide)
  exact (Headers.has_congr (Call.values_authorized_of_ne (by decide))).trans hcall

theorem sent?_callOf : (callOf url request).authorized.sent? =
    ((streamed request).sent? request.method (callOf url request).authorized.headers).map fun body =>
      ⟨request.method, String.ofList (callOf url request).authorized.url.target,
        (callOf url request).authorized.sentHeaders, body⟩ := by
  unfold Call.sent?
  rw [Call.method_authorized, Call.payload_authorized]
  rfl

theorem conveys_callOf (h : (callOf url request).authorized.sent? = some sent) :
    Conveys request url sent := by
  rw [sent?_callOf] at h
  obtain ⟨body, hbody, rfl⟩ := Option.map_eq_some_iff.1 h
  refine ⟨rfl, ?_, ?_, ?_, ?_, eq_body_iff_of_streamed not_coded_callOf contentLength?_callOf hbody⟩
  · intro name hname hhas
    have hvalues := (values_callOf url request name).trans (if_neg hname)
    exact (Call.values_sentHeaders_of_has ((Headers.has_congr hvalues).trans hhas)).trans hvalues
  · intro name hname
    have hall : ∀ name ∈ Headers.hopByHop, name ∉ Call.addedNames := by decide
    refine (Call.values_sentHeaders_of_not_added (hall name hname)).trans ?_
    exact (values_callOf url request name).trans (if_pos (List.mem_cons_of_mem _ hname))
  · exact Call.values_host_sentHeaders (has_callOf_of_mem List.mem_cons_self)
  · intro name hname hnone
    refine (Call.values_sentHeaders_of_not_added hname).trans ?_
    rw [values_callOf, Headers.has_eq_false_iff.1 hnone, ite_self]

theorem exists_sent?_callOf (url : Url) (hcomplete : IsComplete request) :
    ∃ sent, (callOf url request).authorized.sent? = some sent := by
  obtain ⟨body, hbody⟩ := exists_sent?_streamed not_coded_callOf
    (@contentLength?_callOf url request) hcomplete
  rw [sent?_callOf, hbody]
  exact ⟨_, rfl⟩

end Call

/-! ## Visits -/

theorem Conveys.of_standsFor {url : Url} {request original : Request} {sent : Sent}
    (hstands : StandsFor request original) (h : Conveys request url sent) :
    Conveys original url sent := by
  obtain ⟨hmethod, hheaders, hbody, -⟩ := hstands
  refine ⟨hmethod ▸ h.method, ?_, h.stripped, h.host, ?_, ?_⟩
  · rw [← hheaders]
    exact h.values
  · rw [← hheaders]
    exact h.added
  · have hcarried : IsCarried original ↔ IsCarried request := by
      unfold IsCarried
      rw [hmethod, hheaders, hbody]
    rw [hcarried, ← hbody]
    exact h.body

/-- The URL can be asked for, its place is reached, and the body can be sent. -/
structure Asks (hosts : Hosts σ) (s : σ) (name : String) (request : Request) (url : Url) (sent : Sent) :
    Prop where
  parsed : Url.parse? (urlText name request) = some url
  target : url.isTarget = true
  reached : (hosts.dial s url.place).2 = true
  sendable : (callOf url request).authorized.sent? = some sent

section Asks
variable {hosts : Hosts σ} {s : σ} {name : String} {request : Request}

theorem Asks.trace_eq {url : Url} {sent : Sent} (h : Asks hosts s name request url sent) :
    hosts.trace s (callAttempt? name request) =
      [.dialled url.place, .asked url.place (.request sent)] := by
  rw [callAttempt?_eq_some_iff.2 ⟨url, h.parsed, h.target, rfl⟩, h.sendable]
  simp [Hosts.trace, h.reached]

theorem dialled_of_not_asks (h : ¬∃ url sent, Asks hosts s name request url sent) {contact : Contact}
    (hcontact : contact ∈ hosts.trace s (callAttempt? name request)) :
    ∃ url, Url.parse? (urlText name request) = some url ∧ contact = .dialled url.place := by
  cases hattempt : callAttempt? name request with
  | none =>
    rw [hattempt] at hcontact
    cases hcontact
  | some attempt =>
    rw [hattempt] at hcontact
    obtain ⟨url, hurl, htarget, rfl⟩ := callAttempt?_eq_some_iff.1 hattempt
    cases contact with
    | dialled place =>
      have hplace := Hosts.place_of_mem_trace hcontact
      injection hplace with hplace
      exact ⟨url, hurl, congrArg Contact.dialled hplace.symm⟩
    | asked place question =>
      obtain ⟨heq, hreached⟩ := Hosts.asked_mem_trace_iff.1 hcontact
      injection heq with heq
      injection heq with hplace hquestion
      obtain ⟨sent, hsent, -⟩ := Option.map_eq_some_iff.1 hquestion
      exact absurd ⟨url, sent, hurl, htarget, hplace ▸ hreached, hsent⟩ h

theorem response_callHost (hosts : Hosts σ) (s : σ) (name : String) (request : Request) :
    (callHost hosts s name request).2.response =
      match Url.parse? (urlText name request) with
      | none => unreachable name
      | some url =>
        if url.isTarget && (hosts.dial s url.place).2 then
          relayed name ((callOf url request).authorized.sent?.bind fun sent =>
            (hosts.ask (hosts.dial s url.place).1 url.place sent).2.map (·.response))
        else unreachable name := by
  unfold callHost
  rw [outgoing?_eq]
  cases Url.parse? (urlText name request) with
  | none => rfl
  | some url =>
    simp only [Option.map_some, Hosts.connect, Hosts.exchange, Call.isTarget_authorized,
      Call.place_authorized]
    have htarget : (callOf url request).url.isTarget = url.isTarget := rfl
    have hplace : (callOf url request).url.place = url.place := rfl
    rw [htarget, hplace]
    cases url.isTarget with
    | false => rfl
    | true =>
      simp only [if_true, Bool.true_and]
      generalize hosts.dial s url.place = dialled
      obtain ⟨next, _ | _⟩ := dialled
      · rfl
      · cases (callOf url request).authorized.sent? <;> rfl

theorem Asks.response_eq {url : Url} {sent : Sent} (h : Asks hosts s name request url sent) :
    (callHost hosts s name request).2.response = relayed name
      ((hosts.ask (hosts.dial s url.place).1 url.place sent).2.map (·.response)) := by
  rw [response_callHost, h.parsed]
  simp only [h.target, h.reached, h.sendable, Bool.and_self, if_true, Option.bind_some]

theorem response_of_not_asks (h : ¬∃ url sent, Asks hosts s name request url sent) :
    (callHost hosts s name request).2.response = unreachable name := by
  rw [response_callHost]
  cases hurl : Url.parse? (urlText name request) with
  | none => rfl
  | some url =>
    simp only [Bool.and_eq_true]
    split
    · next hreached =>
      cases hsent : (callOf url request).authorized.sent? with
      | none => rfl
      | some sent => exact absurd ⟨url, sent, hurl, hreached.1, hreached.2, hsent⟩ h
    · rfl

end Asks

/-- The answer of a plain call, when the host was asked. -/
def answered (request : Request) (host : String) (answer : Option Answer) (response : Response) :
    Prop :=
  match answer with
  | none => response = unreachable host
  | some answer => Relays request answer.response response

theorem answered_relayed (request : Request) (host : String) (answer : Option Answer) :
    answered request host answer (relayed host (answer.map (·.response))) := by
  cases answer with
  | none => rfl
  | some answer => exact relays_relay request answer.response

section Called

variable {v : Visit σ} {host : Option String} {name : String} {request : Request}

theorem IsComplete.of_standsFor {original : Request} (hstands : StandsFor request original)
    (h : IsComplete original) : IsComplete request := by
  refine ⟨hstands.broken.trans h.whole, ?_⟩
  rw [hstands.headers, hstands.body]
  exact h.long

/-- A visit whose request is passed on to a host without another protocol either dials the place of its URL
and asks there once, with a request that conveys the client's, and relays the answer whatever that is; or it
asks nobody and says so, and then the URL cannot be asked for, its place is not reached, or the client's body
did not come as it was announced. Of a request that was read from a connection, only a body of unannounced
length can be lost, and only with the methods that are not expected to have one. -/
theorem plain_calls_convey (hdecision : v.decision = .forward host request)
    (hplan : plan host request = .call name request) :
    ((∃ url sent, Url.parse? (urlText name request) = some url ∧
        v.contacts = [.dialled url.place, .asked url.place (.request sent)] ∧
        Conveys v.request url sent ∧
        answered v.request name (v.hosts.ask (v.hosts.dial v.state url.place).1 url.place sent).2
          v.served.delivery.response) ∨
      ((∀ contact ∈ v.contacts, ∃ url, Url.parse? (urlText name request) = some url ∧
          contact = .dialled url.place) ∧
        v.served.delivery.response = unreachable name ∧
        ∀ url, Url.parse? (urlText name request) = some url → url.isTarget = true →
          (v.hosts.dial v.state url.place).2 = true → ¬IsComplete v.request)) ∧
    ∀ bytes, (Inbound.next bytes).request? = some v.request →
      (IsComplete v.request ↔ v.request.broken = false) ∧
      (IsCarried v.request ↔ (v.request.headers.contentLength? = none →
        v.request.method ∈ Http.bodiless → v.request.body = [])) := by
  refine ⟨?_, fun bytes hread => ⟨isComplete_of_next hread, isCarried_of_next hread⟩⟩
  have hstands := Visit.standsFor hdecision
  have hcontacts := Visit.contacts_of_forward hdecision
  have hresponse := (Visit.served_of_forward hdecision).2
  unfold deliver at hresponse
  rw [hplan] at hcontacts hresponse
  by_cases hasks : ∃ url sent, Asks v.hosts v.state name request url sent
  · obtain ⟨url, sent, hasks⟩ := hasks
    refine .inl ⟨url, sent, hasks.parsed, hcontacts.trans hasks.trace_eq,
      (conveys_callOf hasks.sendable).of_standsFor hstands, ?_⟩
    rw [hresponse, hasks.response_eq]
    exact answered_relayed ..
  · refine .inr ⟨fun contact hcontact => ?_, ?_, fun url hurl htarget hreached hcomplete => ?_⟩
    · rw [hcontacts] at hcontact
      exact dialled_of_not_asks hasks hcontact
    · rw [hresponse, response_of_not_asks hasks]
    · obtain ⟨sent, hsent⟩ := exists_sent?_callOf url (hcomplete.of_standsFor hstands)
      exact hasks ⟨url, sent, hurl, htarget, hreached, hsent⟩

end Called

/-- A request for a container of a scripted host. -/
def asking (replies : List Rehearsal.Reply) (request : Request) : Visit Rehearsal.Scene where
  setup := ⟨.standard, "", List.head?, "request"⟩
  hosts := Rehearsal.hosts
  state := .start true replies
  registry := (Registry.empty true).run
    [.registerContainer "abc" ⟨"abc", "", "", 0, "", [], "tcp://127.66.0.1:4243", []⟩]
  request
  later := []

/-- A request with a body of announced length, a repeated line and a line for its connection. -/
def kill : Request where
  method := "POST"
  target := ⟨none, none, "/containers/abc/kill", none⟩
  version := .http11
  headers := [("host", Bytes.ofText "x"), ("x-note", Bytes.ofText "1"),
    ("connection", Bytes.ofText "close"), ("x-note", Bytes.ofText "2"),
    ("content-length", Bytes.ofText "5")]
  body := Bytes.ofText "hello"
  sized := true
  broken := false

theorem kill_is_conveyed :
    let bytes := Bytes.ofText ("POST /containers/abc/kill HTTP/1.1\r\nHost: x\r\nX-Note: 1\r\n" ++
      "Connection: close\r\nX-Note: 2\r\nContent-Length: 5\r\n\r\nhello")
    (Inbound.next bytes).request? = some kill ∧
      (asking [] kill).decision = .forward (some "127.66.0.1:4243") kill ∧
      plan (some "127.66.0.1:4243") kill = .call "127.66.0.1:4243" kill ∧
      ∃ url sent,
        (asking [] kill).contacts = [.dialled url.place, .asked url.place (.request sent)] ∧
        Conveys kill url sent ∧ sent.body = Bytes.ofText "hello" ∧
        sent.headers.values "x-note" = [Bytes.ofText "1", Bytes.ofText "2"] ∧
        answered kill "127.66.0.1:4243" (Rehearsal.hosts.ask (.start true []) url.place sent).2
          (asking [] kill).served.delivery.response := by
  intro bytes
  have hread : (Inbound.next bytes).request? = some kill := by decide +kernel
  have hdecision : (asking [] kill).decision = .forward (some "127.66.0.1:4243") kill := rfl
  have hplan : plan (some "127.66.0.1:4243") kill = .call "127.66.0.1:4243" kill := rfl
  refine ⟨hread, hdecision, hplan, ?_⟩
  obtain ⟨⟨url, sent, hurl, hboth, hconveys, hanswered⟩ | ⟨hdialled, -⟩, hwire⟩ :=
    plain_calls_convey hdecision hplan
  · have hannounced : kill.headers.contentLength? = some 5 := by decide +kernel
    have hcarried : IsCarried kill :=
      (hwire bytes hread).2.2 fun hnone => nomatch hannounced.symm.trans hnone
    refine ⟨url, sent, hboth, hconveys, hconveys.body.2 hcarried, ?_, hanswered⟩
    exact hconveys.values "x-note" (by decide) (by decide)
  · have hasked : (asking [] kill).contacts.any Contact.isAsked = true := by decide +kernel
    obtain ⟨contact, hcontact, hquestion⟩ := List.any_eq_true.1 hasked
    obtain ⟨url, -, rfl⟩ := hdialled contact hcontact
    cases hquestion

/-- An inspection without a body. -/
def inspect : Request where
  method := "GET"
  target := ⟨none, none, "/containers/abc/json", none⟩
  version := .http10
  headers := [("host", Bytes.ofText "x")]
  body := []
  sized := true
  broken := false

/-- An inspection whose body is sent in chunks. -/
def chunkedInspect : Request :=
  { inspect with
    version := .http11
    headers := [("host", Bytes.ofText "x"), ("transfer-encoding", Bytes.ofText "chunked")]
    body := Bytes.ofText "hello"
    sized := false }

/-- An answer that is sent in chunks and announces less than it has. -/
def chunkedReply : Rehearsal.Reply :=
  { Rehearsal.Reply.plain with
    headers := [("content-length", Bytes.ofText "3")]
    body := Bytes.ofText "0123456789"
    chunked := true }

/-- The bodies that the hosts got. -/
def received (v : Visit Rehearsal.Scene) : List Bytes :=
  v.served.state.log.filterMap fun
    | .request _ sent => some sent.body
    | .raw _ _ => none

/-- The line that codes a body is of the connection and goes. For the host the body is then one of unknown
length, which an inspection is not expected to have; for the client it is as long as the line says that
the coding overrode. -/
theorem two_bodies_do_not_arrive :
    (Inbound.next (Bytes.ofText ("GET /containers/abc/json HTTP/1.1\r\nHost: x\r\n" ++
        "Transfer-Encoding: chunked\r\n\r\n5\r\nhello\r\n0\r\n\r\n"))).request? =
          some chunkedInspect ∧
      (asking [] chunkedInspect).decision = .forward (some "127.66.0.1:4243") chunkedInspect ∧
      plan (some "127.66.0.1:4243") chunkedInspect = .call "127.66.0.1:4243" chunkedInspect ∧
      chunkedInspect.body = Bytes.ofText "hello" ∧
      received (asking [] chunkedInspect) = [[]] ∧
      (asking [chunkedReply] inspect).decision = .forward (some "127.66.0.1:4243") inspect ∧
      plan (some "127.66.0.1:4243") inspect = .call "127.66.0.1:4243" inspect ∧
      (Answer.read? "GET" (chunkedReply.written "GET")).map (·.response.body) =
        some (Bytes.ofText "0123456789") ∧
      Inbound.writtenBody inspect (asking [chunkedReply] inspect).served.delivery.response =
        Bytes.ofText "012" := by
  refine ⟨?read, rfl, rfl, rfl, ?sent, rfl, rfl, ?answered, ?written⟩
  all_goals decide +kernel

end Proxy

end HostFleet
