import HostFleet.Proxy.Service

/-! # Whom a request contacts

A request is passed on to a host that is given as text. What is done among hosts on the way is recorded
here: the places that are dialled, and what is asked where one is reached.

* `Hosts.recorded`: the same hosts, with a record of every contact.
* `Attempt`: a place to dial and what to ask there; `Plan.attempt?`: that of a plan.
* `deliver_carried`: a plan does what it attempts and no more, recorded or not.
* `Visit`: a request at the proxy; `Visit.contacts_of_forward`: its contacts are those of one attempt.
* `callAttempt?_eq_some_iff`: when a plain call attempts anything, and what.
-/

set_option autoImplicit false

namespace HostFleet

variable {σ : Type}

namespace Http

/-! ## Contacts -/

/-- What is asked over a connection. -/
inductive Question where
  | request (sent : Sent)
  | raw (bytes : Bytes)
  deriving DecidableEq, Repr

inductive Contact where
  | dialled (place : Place)
  | asked (place : Place) (question : Question)
  deriving DecidableEq, Repr

def Contact.place : Contact → Place
  | .dialled place => place
  | .asked place _ => place

def Contact.isAsked : Contact → Bool
  | .dialled _ => false
  | .asked _ _ => true

/-- A place to dial, and what to ask there if it is reached. -/
structure Attempt where
  place : Place
  question : Option Question
  deriving DecidableEq, Repr

namespace Hosts

/-- The same hosts, with a record of every contact. -/
def recorded (hosts : Hosts σ) : Hosts (σ × List Contact) where
  dial s place :=
    let (next, reached) := hosts.dial s.1 place
    ((next, s.2 ++ [.dialled place]), reached)
  ask s place sent :=
    let (next, answer) := hosts.ask s.1 place sent
    ((next, s.2 ++ [.asked place (.request sent)]), answer)
  converse s place bytes :=
    let (next, answer) := hosts.converse s.1 place bytes
    ((next, s.2 ++ [.asked place (.raw bytes)]), answer)
  switched s := hosts.switched s.1

/-- The state of the hosts after a question. -/
def put (hosts : Hosts σ) (s : σ) (place : Place) : Question → σ
  | .request sent => (hosts.ask s place sent).1
  | .raw bytes => (hosts.converse s place bytes).1

/-- The state of the hosts after an attempt, or after none. -/
def after (hosts : Hosts σ) (s : σ) : Option Attempt → σ
  | none => s
  | some ⟨place, question⟩ =>
    match hosts.dial s place, question with
    | (s, true), some question => hosts.put s place question
    | (s, true), none | (s, false), _ => s

/-- The contacts of an attempt: nothing is asked where nobody is reached. -/
def trace (hosts : Hosts σ) (s : σ) : Option Attempt → List Contact
  | none => []
  | some ⟨place, question⟩ =>
    .dialled place ::
      if (hosts.dial s place).2 then (question.map (Contact.asked place)).toList else []

section Recorded
variable (hosts : Hosts σ) (s : σ) (log : List Contact) (place : Place)

theorem dial_recorded : hosts.recorded.dial (s, log) place =
    (((hosts.dial s place).1, log ++ [.dialled place]), (hosts.dial s place).2) := rfl

theorem ask_recorded (sent : Sent) : hosts.recorded.ask (s, log) place sent =
    (((hosts.ask s place sent).1, log ++ [.asked place (.request sent)]), (hosts.ask s place sent).2) := rfl

theorem converse_recorded (bytes : Bytes) : hosts.recorded.converse (s, log) place bytes =
    (((hosts.converse s place bytes).1, log ++ [.asked place (.raw bytes)]),
      (hosts.converse s place bytes).2) := rfl

theorem switched_recorded (bytes : Bytes) :
    hosts.recorded.switched (s, log) place bytes = hosts.switched s place bytes := rfl

end Recorded

variable {hosts : Hosts σ} {s : σ} {attempt : Option Attempt}

theorem after_recorded (hosts : Hosts σ) (s : σ) (log : List Contact) (attempt : Option Attempt) :
    hosts.recorded.after (s, log) attempt = (hosts.after s attempt, log ++ hosts.trace s attempt) := by
  rcases attempt with _ | ⟨place, question⟩
  · simp [after, trace]
  · simp only [after, trace, dial_recorded]
    generalize hosts.dial s place = dialled
    obtain ⟨s, _ | _⟩ := dialled
    · rfl
    · rcases question with _ | _ | _
      · rfl
      · simp [put, ask_recorded]
      · simp [put, converse_recorded]

theorem trace_eq_nil_iff : hosts.trace s attempt = [] ↔ attempt = none := by
  rcases attempt with _ | ⟨place, question⟩ <;> simp [trace]

/-- Only one place is contacted. -/
theorem place_of_mem_trace {contact : Contact} (h : contact ∈ hosts.trace s attempt) :
    attempt.map (·.place) = some contact.place := by
  rcases attempt with _ | ⟨place, question⟩
  · cases h
  · rcases List.mem_cons.1 h with rfl | h
    · rfl
    · split at h
      · obtain ⟨question, -, rfl⟩ := Option.map_eq_some_iff.1 (Option.mem_toList.1 h)
        rfl
      · cases h

theorem asked_mem_trace_iff {place : Place} {question : Question} :
    Contact.asked place question ∈ hosts.trace s attempt ↔
      attempt = some ⟨place, some question⟩ ∧ (hosts.dial s place).2 = true := by
  rcases attempt with _ | ⟨place', question'⟩
  · simp [trace]
  · rw [trace, List.mem_cons]
    constructor
    · rintro (h | h)
      · cases h
      · split at h
        · next hreached =>
          obtain ⟨asked, rfl, heq⟩ := Option.map_eq_some_iff.1 (Option.mem_toList.1 h)
          cases heq
          exact ⟨rfl, hreached⟩
        · cases h
    · rintro ⟨heq, hreached⟩
      cases heq
      exact .inr (by simp [hreached])

end Hosts

/-- What a call attempts, if its URL can be asked for. -/
def Call.attempt? (c : Call) : Option Attempt :=
  if c.url.isTarget then some ⟨c.url.place, c.sent?.map .request⟩ else none

end Http

namespace Proxy

open Http (Attempt Call Contact Hosts Place Question Request Response Upgrade Url)

/-! ## What a plan attempts -/

def callAttempt? (host : String) (request : Request) : Option Attempt :=
  (outgoing? host request).bind (·.attempt?)

def tcpAttempt (host : String) (request : Request) (later : Bytes) : Attempt where
  place := .text host
  question := (tunnelOpening? host request).toOption.map fun opening =>
    .raw (opening ++ if canSwitch request then later else [])

def webSocketAttempt (host : String) (request : Request) : Attempt where
  place := .text host
  question := (webSocketRequest? host request).map .request

def Plan.attempt? (later : Bytes) : Plan → Option Attempt
  | .answer _ => none
  | .call host request => callAttempt? host request
  | .tunnel .tcp host request => some (tcpAttempt host request later)
  | .tunnel .webSocket host request => some (webSocketAttempt host request)

/-- The host that is called or tunnelled to. -/
def Plan.host? : Plan → Option String
  | .answer _ => none
  | .call host _ => some host
  | .tunnel _ host _ => some host

section Deliver
variable (hosts : Hosts σ) (s : σ) (log : List Contact) (host : String) (request : Request) (later : Bytes)

theorem callHost_carried : ∃ delivery,
    callHost hosts s host request = (hosts.after s (callAttempt? host request), delivery) ∧
    callHost hosts.recorded (s, log) host request =
      (hosts.recorded.after (s, log) (callAttempt? host request), delivery) := by
  unfold callHost callAttempt?
  rw [Hosts.after_recorded]
  cases outgoing? host request with
  | none => exact ⟨_, rfl, by simp [Hosts.after, Hosts.trace]⟩
  | some call =>
    simp only [Option.bind_some, Hosts.connect, Http.Call.attempt?]
    cases call.url.isTarget with
    | false => exact ⟨_, rfl, by simp [Hosts.after, Hosts.trace]⟩
    | true =>
      simp only [if_true, Hosts.dial_recorded, Hosts.after, Hosts.trace]
      generalize hosts.dial s call.url.place = dialled
      obtain ⟨s, _ | _⟩ := dialled
      · exact ⟨_, rfl, rfl⟩
      · simp only [Hosts.exchange, Hosts.ask_recorded]
        cases call.sent? with
        | none => exact ⟨_, rfl, rfl⟩
        | some sent => exact ⟨_, rfl, by simp [Hosts.put]⟩

theorem openTcp_carried : ∃ delivery,
    openTcp hosts s host request later =
      (hosts.after s (some (tcpAttempt host request later)), delivery) ∧
    openTcp hosts.recorded (s, log) host request later =
      (hosts.recorded.after (s, log) (some (tcpAttempt host request later)), delivery) := by
  unfold openTcp tcpAttempt
  rw [Hosts.after_recorded]
  simp only [Hosts.dial_recorded, Hosts.after, Hosts.trace]
  generalize hosts.dial s (.text host) = dialled
  obtain ⟨s, _ | _⟩ := dialled
  · exact ⟨_, rfl, rfl⟩
  · cases tunnelOpening? host request with
    | error fault => exact ⟨_, rfl, rfl⟩
    | ok opening =>
      simp only [Except.toOption, Option.map_some, Hosts.put, Hosts.converse_recorded]
      generalize hosts.converse s (.text host) _ = conversed
      obtain ⟨next, back⟩ := conversed
      cases back <;> exact ⟨_, rfl, by simp⟩

theorem openWebSocket_carried : ∃ delivery,
    openWebSocket hosts s host request later =
      (hosts.after s (some (webSocketAttempt host request)), delivery) ∧
    openWebSocket hosts.recorded (s, log) host request later =
      (hosts.recorded.after (s, log) (some (webSocketAttempt host request)), delivery) := by
  unfold openWebSocket webSocketAttempt
  rw [Hosts.after_recorded]
  simp only [Hosts.dial_recorded, Hosts.after, Hosts.trace]
  generalize hosts.dial s (.text host) = dialled
  obtain ⟨s, _ | _⟩ := dialled
  · exact ⟨_, rfl, rfl⟩
  · cases webSocketRequest? host request with
    | none => exact ⟨_, rfl, rfl⟩
    | some sent =>
      simp only [Option.map_some, Hosts.put, Hosts.ask_recorded]
      generalize hosts.ask s (.text host) sent = asked
      obtain ⟨next, answer⟩ := asked
      cases answer with
      | none => exact ⟨_, rfl, by simp⟩
      | some answer =>
        simp only [Hosts.switched_recorded]
        split <;> exact ⟨_, rfl, by simp⟩

/-- Hosts get to know what is attempted for a plan and nothing else, and a record of it changes nothing. -/
theorem deliver_carried (host : Option String) : ∃ delivery,
    deliver hosts s host request later =
      (hosts.after s ((plan host request).attempt? later), delivery) ∧
    deliver hosts.recorded (s, log) host request later =
      (hosts.recorded.after (s, log) ((plan host request).attempt? later), delivery) := by
  unfold deliver
  cases plan host request with
  | answer response => exact ⟨_, rfl, rfl⟩
  | call name request => exact callHost_carried hosts s log name request
  | tunnel upgrade name request =>
    cases upgrade with
    | tcp => exact openTcp_carried hosts s log name request later
    | webSocket => exact openWebSocket_carried hosts s log name request later

end Deliver

/-! ## Visits -/

/-- A request at the proxy, with all that it meets there. -/
structure Visit (σ : Type) where
  setup : Setup
  hosts : Hosts σ
  state : σ
  registry : Registry
  request : Request
  /-- What the client sends once protocols are switched. -/
  later : Bytes

namespace Visit

def served (v : Visit σ) : Served σ :=
  serve v.setup v.hosts v.state v.registry v.request v.later

def recorded (v : Visit σ) : Visit (σ × List Contact) :=
  ⟨v.setup, v.hosts.recorded, (v.state, []), v.registry, v.request, v.later⟩

/-- What is done among hosts, in order. -/
def contacts (v : Visit σ) : List Contact := v.recorded.served.state.2

def decision (v : Visit σ) : Decision := (decide v.setup v.registry v.request).2

/-- The host that the request is passed on to, as a text. -/
def host? (v : Visit σ) : Option String :=
  match v.decision with
  | .forward host request => (plan host request).host?
  | _ => none

/-- The path and the query that are passed on. -/
def forwardedTarget (v : Visit σ) : String :=
  match v.decision with
  | .forward _ request => request.target.pathAndQuery
  | _ => ""

/-- The protocol that the client wants to speak with the host. -/
def upgrade? (v : Visit σ) : Option Upgrade := Upgrade.requested? v.request.headers

variable {v : Visit σ} {host : Option String} {request : Request}

theorem served_of_answer {response : Response} (h : v.decision = .answer response) :
    v.served.state = v.state ∧ v.served.delivery.response = response := by
  unfold decision at h
  unfold served serve
  generalize decide v.setup v.registry v.request = decided at h
  obtain ⟨r, decision⟩ := decided
  subst h
  exact ⟨rfl, rfl⟩

theorem served_of_forward (h : v.decision = .forward host request) :
    v.served.state = (deliver v.hosts v.state host request v.later).1 ∧
      v.served.delivery.response = (deliver v.hosts v.state host request v.later).2.response := by
  unfold decision at h
  unfold served serve
  generalize decide v.setup v.registry v.request = decided at h
  obtain ⟨r, decision⟩ := decided
  subst h
  exact ⟨rfl, rfl⟩

/-- Recording the contacts of a visit does not change it. -/
theorem served_recorded (v : Visit σ) :
    v.recorded.served.state.1 = v.served.state ∧ v.recorded.served.registry = v.served.registry ∧
      v.recorded.served.delivery = v.served.delivery ∧ v.recorded.served.order = v.served.order := by
  obtain ⟨setup, hosts, s, r, request, later⟩ := v
  unfold served serve recorded
  simp only
  obtain ⟨r', decision⟩ := decide setup r request
  cases decision with
  | answer response => exact ⟨rfl, rfl, rfl, rfl⟩
  | create order => exact ⟨rfl, rfl, rfl, rfl⟩
  | forward host request =>
    obtain ⟨delivery, hdelivered, hrecorded⟩ := deliver_carried hosts s [] request later host
    simp only [hdelivered, hrecorded, Hosts.after_recorded, and_self]

theorem contacts_eq_nil_of_answer {response : Response} (h : v.decision = .answer response) :
    v.contacts = [] := by
  have hrecorded : v.recorded.decision = .answer response := h
  unfold contacts
  rw [(served_of_answer hrecorded).1]
  rfl

theorem contacts_of_forward (h : v.decision = .forward host request) :
    v.contacts = v.hosts.trace v.state ((plan host request).attempt? v.later) := by
  have hrecorded : v.recorded.decision = .forward host request := h
  have hstate : v.recorded.served.state =
      (deliver v.hosts.recorded (v.state, []) host request v.later).1 := (served_of_forward hrecorded).1
  obtain ⟨delivery, -, hdelivered⟩ := deliver_carried v.hosts v.state [] request v.later host
  unfold contacts
  rw [hstate, hdelivered, Hosts.after_recorded, List.nil_append]

theorem state_of_forward (h : v.decision = .forward host request) :
    v.served.state = v.hosts.after v.state ((plan host request).attempt? v.later) := by
  obtain ⟨delivery, hdelivered, -⟩ := deliver_carried v.hosts v.state [] request v.later host
  rw [(served_of_forward h).1, hdelivered]

end Visit

/-! ## Requests that need a host -/

/-- The request is of a protocol that is spoken, and not the liveness check. -/
structure IsOrdinary (request : Request) : Prop where
  version : request.version = .http10 ∨ request.version = .http11
  agent : isHealthCheck request.headers = false

theorem IsOrdinary.plan_eq {request : Request} (h : IsOrdinary request) (host : Option String) :
    plan host request = match usableHost? host with
      | none => .answer (.ofFault .missingRoute)
      | some name =>
        match Upgrade.requested? request.headers with
        | some upgrade => .tunnel upgrade name request
        | none => .call name request := by
  have hversion : ¬(request.version ≠ .http10 ∧ request.version ≠ .http11) := by
    rintro ⟨h10, h11⟩
    exact h.version.elim h10 h11
  have hagent : ¬isHealthCheck request.headers = true := by
    rw [h.agent]
    exact Bool.false_ne_true
  unfold plan
  refine (if_neg hversion).trans ((if_neg hagent).trans ?_)
  rfl

theorem plan_cases (host : Option String) (request : Request) :
    (∃ response, plan host request = .answer response) ∨
    ∃ name, usableHost? host = some name ∧
      ((Upgrade.requested? request.headers = none ∧ plan host request = .call name request) ∨
        ∃ upgrade, Upgrade.requested? request.headers = some upgrade ∧
          plan host request = .tunnel upgrade name request) := by
  unfold plan
  split
  · exact .inl ⟨_, rfl⟩
  · split
    · exact .inl ⟨_, rfl⟩
    · split
      · exact .inl ⟨_, rfl⟩
      · next name hname =>
        refine .inr ⟨name, hname, ?_⟩
        split
        · next upgrade hupgrade => exact .inr ⟨upgrade, hupgrade, rfl⟩
        · next hplain => exact .inl ⟨hplain, rfl⟩

theorem IsOrdinary.host?_plan {request : Request} (h : IsOrdinary request) (host : Option String) :
    (plan host request).host? = usableHost? host := by
  rw [h.plan_eq]
  cases usableHost? host with
  | none => rfl
  | some name =>
    simp only
    split <;> rfl

/-- The headers of a request that asks for a raw tunnel. -/
def tunnelHeaders : Http.Headers :=
  [("connection", Bytes.ofText "Upgrade"), ("upgrade", Bytes.ofText "tcp")]

/-! ## Plain calls -/

/-- The call for a request. -/
def callOf (url : Url) (request : Request) : Call :=
  ⟨request.method, url, request.headers.endToEnd.without ["host"], streamed request⟩

theorem outgoing?_eq (host : String) (request : Request) : outgoing? host request =
    (Url.parse? (urlText host request)).map fun url => (callOf url request).authorized := rfl

/-- The credentials that move from the URL to a header say nothing about the place. -/
theorem attempt?_authorized (c : Call) : c.authorized.attempt? =
    if c.url.isTarget then some ⟨c.url.place, c.authorized.sent?.map .request⟩ else none := by
  unfold Call.attempt? Call.authorized
  split <;> rfl

section Called
variable {host : String} {request : Request} {attempt : Attempt}

theorem callAttempt?_eq_some_iff : callAttempt? host request = some attempt ↔
    ∃ url, Url.parse? (urlText host request) = some url ∧ url.isTarget = true ∧
      attempt = ⟨url.place, (callOf url request).authorized.sent?.map .request⟩ := by
  unfold callAttempt?
  rw [outgoing?_eq]
  simp only [Option.bind_eq_some_iff, Option.map_eq_some_iff]
  constructor
  · rintro ⟨call, ⟨url, hurl, rfl⟩, hattempt⟩
    rw [attempt?_authorized, Option.ite_none_right_eq_some, Option.some.injEq] at hattempt
    exact ⟨url, hurl, hattempt.1, hattempt.2.symm⟩
  · rintro ⟨url, hurl, htarget, rfl⟩
    refine ⟨_, ⟨url, hurl, rfl⟩, ?_⟩
    rw [attempt?_authorized]
    exact if_pos htarget

theorem callAttempt?_eq_none_iff : callAttempt? host request = none ↔
    ∀ url, Url.parse? (urlText host request) = some url → url.isTarget = false := by
  rw [Option.eq_none_iff_forall_ne_some]
  constructor
  · intro h url hurl
    refine Bool.eq_false_iff.2 fun htarget => ?_
    exact absurd (callAttempt?_eq_some_iff.2 ⟨url, hurl, htarget, rfl⟩) (h _)
  · intro h attempt hattempt
    obtain ⟨url, hurl, htarget, -⟩ := callAttempt?_eq_some_iff.1 hattempt
    rw [h url hurl] at htarget
    cases htarget

end Called

end Proxy

end HostFleet
