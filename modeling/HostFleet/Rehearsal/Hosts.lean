import HostFleet.Http.Client
import HostFleet.Http.Inbound
import HostFleet.Network

/-! # Scripted hosts

Hosts that answer from a script and remember what they were asked.

* `Reply`: how one request is answered.
* `Scene`: the replies still to come and the requests so far.
* `socket?`: the places that lead somewhere.
* `hosts`: the hosts of a scene, four that take connections.
-/

set_option autoImplicit false

namespace HostFleet.Rehearsal

open Http (Answer Chunked Headers Hosts Inbound Place Sent)

/-- One answer of the script. -/
structure Reply where
  status : Nat
  headers : Headers
  body : Bytes
  /-- Is the body sent in chunks, without an announced length? -/
  chunked : Bool
  /-- Is more announced than sent? -/
  short : Bool
  /-- Is the connection closed without an answer? -/
  close : Bool
  /-- Does the answer never come? -/
  wait : Bool
  /-- What a raw service sends first; without it every byte is sent back. -/
  raw : Option Bytes
  deriving DecidableEq, Repr

namespace Reply

/-- The empty answer. -/
def plain : Reply := ⟨200, [], [], false, false, false, false, none⟩

/-- The answer to a request for a web socket. -/
def agreed : Reply :=
  { plain with
    status := 101
    headers := [("connection", Bytes.ofText "Upgrade"), ("upgrade", Bytes.ofText "websocket")] }

end Reply

/-- What a host was asked. -/
inductive Asked where
  | request (host : SocketAddress) (sent : Sent)
  | raw (host : SocketAddress) (bytes : Bytes)
  deriving Repr

structure Scene where
  network : Network
  replies : List Reply
  /-- The last first. -/
  asked : List Asked
  deriving Repr

namespace Scene

/-- A scene before anything is asked. -/
def start (up : Bool) (replies : List Reply) : Scene := ⟨.empty up, replies, []⟩

/-- The requests in order. -/
def log (s : Scene) : List Asked := s.asked.reverse

/-- Takes the next reply. -/
def next (s : Scene) (default : Reply) : Scene × Reply :=
  match s.replies with
  | [] => (s, default)
  | reply :: replies => ({ s with replies }, reply)

end Scene

/-- The socket of a place on a network without names, where nothing is encrypted. -/
def socket? : Place → Option SocketAddress
  | .text hostAndPort => SocketAddress.readV4? hostAndPort.toList
  | .origin "http" (.ip (.v4 a b c d)) port => some ⟨a, b, c, d, port⟩
  | .origin _ _ _ => none

/-- Does a scripted host take connections there? -/
def isHost (s : SocketAddress) : Bool :=
  s.a == 127 && s.b == 66 && s.c == 0 && 1 ≤ s.d && s.d ≤ 4 && s.port == 4243

/-- The host that takes connections at a place. -/
def Scene.host? (s : Scene) (place : Place) : Option SocketAddress :=
  if s.network.up then (socket? place).filter isHost else none

/-- How much more than it sends a short answer announces. -/
def missing : Nat := 5

/-- The line that frames the body. -/
def Reply.framing (reply : Reply) : String × Bytes :=
  if reply.chunked then ("transfer-encoding", Bytes.ofText "chunked")
  else
    let length := reply.body.length + if reply.short then missing else 0
    ("content-length", Bytes.ofText (toString length))

/-- The body as it is written. -/
def Reply.writtenBody (reply : Reply) (method : String) : Bytes :=
  if method == "HEAD" || reply.status == 204 || reply.status == 304 then []
  else if reply.chunked then Chunked.write reply.body
  else reply.body

/-- The answer as it is written, before the connection is closed. -/
def Reply.written (reply : Reply) (method : String) : Bytes :=
  let line (text : String) : Bytes := Bytes.ofText text ++ [0x0D, 0x0A]
  let fields := (reply.headers ++ [reply.framing]).flatMap fun (name, value) =>
    Bytes.ofText name ++ Bytes.ofText ": " ++ value ++ [0x0D, 0x0A]
  line ("HTTP/1.1 " ++ toString reply.status ++ " Mock") ++ fields ++ line "" ++
    reply.writtenBody method

/-- A request reaches a host. -/
def ask (s : Scene) (place : Place) (sent : Sent) : Scene × Option Answer :=
  match s.host? place with
  | none => (s, none)
  | some socket =>
    let default := if sent.headers.has "upgrade" then Reply.agreed else Reply.plain
    let (s, reply) := { s with asked := .request socket sent :: s.asked }.next default
    if reply.close || reply.wait then (s, none)
    else (s, Answer.read? sent.method (reply.written sent.method))

/-- The bytes behind the first request. -/
def behindRequest (bytes : Bytes) : Bytes :=
  match Inbound.next bytes with
  | .request inbound => inbound.rest
  | _ => []

/-- A raw connection reaches a host. -/
def converse (s : Scene) (place : Place) (bytes : Bytes) : Scene × Option Bytes :=
  match s.host? place with
  | none => (s, none)
  | some socket =>
    let (s, reply) := { s with asked := .raw socket bytes :: s.asked }.next Reply.plain
    match reply.raw with
    | some greeting => (s, some (greeting ++ behindRequest bytes))
    | none => (s, some bytes)

/-- The scripted hosts: they send everything back once protocols are switched. -/
def hosts : Hosts Scene where
  dial s place := (s, (s.host? place).isSome)
  ask := ask
  converse := converse
  switched := fun _ _ bytes => bytes

end HostFleet.Rehearsal
