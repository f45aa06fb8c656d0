import HostFleet.Proxy.Forward

/-! # Delivery

A plan carried out among hosts.

* `deliver`: passes a request on and answers the client, with what a tunnel brings back.
* `callHost`, `openTcp`, `openWebSocket`: the three ways to a host.
-/

set_option autoImplicit false

namespace HostFleet.Proxy

open Http (Hosts Request Response)

/-- What a client gets. -/
structure Delivery where
  response : Response
  /-- The bytes behind an answer that switches protocols. -/
  tunnelled : Bytes
  /-- Was the body of the request read? -/
  read : Bool
  deriving Repr

namespace Delivery

/-- An answer for which the body of the request was not read. -/
def answer (response : Response) : Delivery := ⟨response, [], false⟩

/-- An answer for which a host was asked. -/
def asked (response : Response) : Delivery := ⟨response, [], true⟩

end Delivery

variable {σ : Type}

/-! ## Ways -/

/-- The answer of a host, or that there is none. -/
def relayed (host : String) : Option Response → Response
  | some response => relay response
  | none => unreachable host

/-- A plain call. -/
def callHost (hosts : Hosts σ) (s : σ) (host : String) (request : Request) : σ × Delivery :=
  match outgoing? host request with
  | none => (s, .answer (unreachable host))
  | some call =>
    match hosts.connect s call with
    | (s, false) => (s, .answer (unreachable host))
    | (s, true) =>
      let (s, response) := hosts.exchange s call
      (s, .asked (relayed host response))

/-- Can the client's connection be switched to another protocol? -/
def canSwitch (request : Request) : Bool := request.version == .http11

/-- A raw tunnel: the request is written as it came, and then what the client sends later. A client that
cannot switch is told of a tunnel, but has none. -/
def openTcp (hosts : Hosts σ) (s : σ) (host : String) (request : Request) (later : Bytes) :
    σ × Delivery :=
  match hosts.dial s (.text host) with
  | (s, false) => (s, .answer (unreachable host))
  | (s, true) =>
    match tunnelOpening? host request with
    | .error fault => (s, .answer (.ofFault fault))
    | .ok opening =>
      match hosts.converse s (.text host) (opening ++ if canSwitch request then later else []) with
      | (s, some back) => (s, ⟨switched, if canSwitch request then back else [], true⟩)
      | (s, none) => (s, .answer (unreachable host))

/-- A web socket: a host that agrees switches protocols, another answer is passed on as it is. -/
def openWebSocket (hosts : Hosts σ) (s : σ) (host : String) (request : Request)
    (later : Bytes) : σ × Delivery :=
  match hosts.dial s (.text host) with
  | (s, false) => (s, .answer (unreachable host))
  | (s, true) =>
    match webSocketRequest? host request with
    | none => (s, .answer (unreachable host))
    | some sent =>
      match hosts.ask s (.text host) sent with
      | (s, none) => (s, .asked (unreachable host))
      | (s, some answer) =>
        if answer.response.status = 101 && canSwitch request then
          (s, ⟨answer.response, answer.behind ++ hosts.switched s (.text host) later, true⟩)
        else (s, .asked answer.response)

/-- Passes a request on; `later` is what the client sends once protocols are switched. -/
def deliver (hosts : Hosts σ) (s : σ) (host : Option String) (request : Request)
    (later : Bytes) : σ × Delivery :=
  match plan host request with
  | .answer response => (s, .answer response)
  | .call host request => callHost hosts s host request
  | .tunnel .tcp host request => openTcp hosts s host request later
  | .tunnel .webSocket host request => openWebSocket hosts s host request later

end HostFleet.Proxy
