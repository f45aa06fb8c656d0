import HostFleet.Http.Client

/-! # Forwarding

How a request reaches the host that was found for it.

* `Plan`: an answer made here, a plain call, or a tunnel; `plan` finds it.
* `outgoing?`: the plain call; `relay` turns its answer into the client's.
* `requestHead`: the head that opens a raw tunnel; `webSocketRequest?` asks for a web socket.
-/

set_option autoImplicit false

namespace HostFleet.Proxy

open Http (Call Headers Payload Request Response Sent Upgrade Url)

/-- What is done with a request and its host. -/
inductive Plan where
  | answer (response : Response)
  | call (host : String) (request : Request)
  | tunnel (upgrade : Upgrade) (host : String) (request : Request)

/-- By this name the load balancer's liveness check goes. -/
def monitorAgent : List Char := "HTTP-Monitor/1.1".toList

def isHealthCheck (h : Headers) : Bool := h.text? "user-agent" == some monitorAgent

/-- The answer to a liveness check. -/
def healthy : Response := .ofBody 200 "text/plain; charset=utf-8" (Bytes.ofText "ok")

/-- The host without white space around it, if anything is left. -/
def usableHost? (host : Option String) : Option String :=
  (host.map Text.trim).filter (!·.isEmpty)

/-- The plan for a request: an old or a new protocol and a missing host are refused. -/
def plan (host : Option String) (request : Request) : Plan :=
  if request.version ≠ .http10 ∧ request.version ≠ .http11 then
    .answer (.ofFault (.unsupportedProtocol request.version.name))
  else if isHealthCheck request.headers then .answer healthy
  else match usableHost? host with
    | none => .answer (.ofFault .missingRoute)
    | some host =>
      match Upgrade.requested? request.headers with
      | some upgrade => .tunnel upgrade host request
      | none => .call host request

/-- The answer when the host cannot be reached or does not answer. -/
def unreachable (host : String) : Response := .ofFault (.badGateway host)

/-! ## Plain calls -/

/-- The URL of a request at a host. -/
def urlText (host : String) (request : Request) : String :=
  "http://" ++ host ++ request.target.pathAndQuery

/-- The body as it is passed on; an empty one is left out. -/
def streamed (request : Request) : Payload :=
  if request.broken then .broken
  else if request.sized && request.body.isEmpty then .nothing
  else .stream request.body

/-- The call for a request: the headers of the client's connection stay behind. -/
def outgoing? (host : String) (request : Request) : Option Call :=
  (Url.parse? (urlText host request)).map fun url =>
    Call.authorized
      ⟨request.method, url, request.headers.endToEnd.without ["host"], streamed request⟩

/-- The client's answer: that of the host, without the headers of its connection. -/
def relay (response : Response) : Response :=
  { response with headers := response.headers.endToEnd, reason := none }

/-! ## Tunnels -/

/-- The end of a line. -/
def lineEnd : Bytes := [0x0D, 0x0A]

def headerLine (line : String × Bytes) : Bytes :=
  Bytes.ofText line.1 ++ Bytes.ofText ": " ++ line.2 ++ lineEnd

/-- The headers with the host in front, if they name none. -/
def withHost (host : String) (h : Headers) : Headers :=
  if h.has "host" then h else ("host", Bytes.ofText host) :: h

/-- The head of a request as it is written to the host. -/
def requestHead (host : String) (request : Request) : Bytes :=
  Bytes.ofText (request.method ++ " " ++ request.target.pathAndQuery ++ " HTTP/1.1") ++ lineEnd ++
    ((withHost host request.headers.grouped).flatMap headerLine) ++ lineEnd

/-- Head and body of a request that opens a raw tunnel; a body of unknown length is left out. -/
def tunnelOpening? (host : String) (request : Request) : Except Fault Bytes :=
  if !request.sized then .ok (requestHead host request)
  else if request.broken then .error Fault.unreadableBody
  else .ok (requestHead host request ++ request.body)

/-- The answer that switches a client to a raw tunnel. -/
def switched : Response :=
  ⟨101, none, [("connection", Bytes.ofText "Upgrade"), ("upgrade", Bytes.ofText "tcp")], [], true,
    false⟩

/-- The body of a request that asks for a web socket. -/
def knownBody (request : Request) : Payload :=
  if request.broken then .broken
  else if !request.sized then .stream request.body
  else if request.body.isEmpty then .nothing
  else .whole request.body

/-- The request for a web socket, with all its headers. -/
def webSocketRequest? (host : String) (request : Request) : Option Sent :=
  ((knownBody request).sent? request.method request.headers).map fun body =>
    ⟨request.method, request.target.pathAndQuery, withHost host request.headers, body⟩

end HostFleet.Proxy
