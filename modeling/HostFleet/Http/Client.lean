import HostFleet.Http.Answer
import HostFleet.Http.Url
import HostFleet.Text.Base64

/-! # HTTP calls

* `Call`: a call as it is handed to the client; `Call.sent?` is the request that reaches the host.
* `Hosts`: hosts that are dialled, answer requests and keep a state.
* `Hosts.call`: one call; `Hosts.callFollowing` also follows redirections.
-/

set_option autoImplicit false

namespace HostFleet.Http

/-- A request as a host gets it, when the framing of its body is undone. -/
structure Sent where
  method : String
  target : String
  headers : Headers
  body : Bytes
  deriving DecidableEq, Repr

/-! ## Bodies -/

/-- The body of a call. -/
inductive Payload where
  | nothing
  /-- All of it is there when the call is made. -/
  | whole (bytes : Bytes)
  /-- Its length is not known when the call is made. -/
  | stream (bytes : Bytes)
  /-- It does not come to its end. -/
  | broken
  deriving DecidableEq, Repr

/-- These methods have no body unless its length is announced. -/
def bodiless : List String := ["GET", "HEAD", "CONNECT"]

/-- The bytes that are sent: as many as the headers announce, and none if there are fewer. A stream
without length is not sent with a method that has no body. -/
def Payload.sent? (method : String) (headers : Headers) : Payload → Option Bytes
  | nothing => some []
  | whole bytes => framed? bytes bytes
  | stream bytes => framed? bytes (if bodiless.contains method then [] else bytes)
  | broken =>
    if headers.has "transfer-encoding" || headers.has "content-length" || !bodiless.contains method
    then none
    else some []
where
  framed? (bytes unannounced : Bytes) : Option Bytes :=
    if headers.has "transfer-encoding" then some bytes
    else match headers.contentLength? with
      | some n => if bytes.length < n then none else some (bytes.take n)
      | none => some unannounced

/-! ## Calls -/

/-- A call as it is handed to the client. -/
structure Call where
  method : String
  url : Url
  headers : Headers
  payload : Payload
  deriving DecidableEq, Repr

namespace Call

/-- The headers with a line for a name that has none. -/
def orElse (h : Headers) (name : String) (value : Bytes) : Headers :=
  if h.has name then h else (name, value) :: h

/-- User name and password of a URL, as a header shows them. A name that is no text is not shown, and a
password that is none counts as missing. -/
def credentials? (url : Url) : Option Bytes := do
  let decode? (s : List Char) := Bytes.text? (Form.percentDecode (Bytes.ofText (String.ofList s)))
  let name ← decode? url.username
  let word := if url.password.isEmpty then none else decode? url.password
  if name.isEmpty && word.isNone then none
  else return Bytes.ofText (name ++ ":" ++ word.getD "")

/-- The call with the credentials of its URL in a header, unless it has such a header. -/
def authorized (c : Call) : Call :=
  match credentials? c.url with
  | none => c
  | some b =>
    let value := Bytes.ofText ("Basic " ++ String.ofList (Text.Base64.encode b))
    { c with
      url := { c.url with username := [], password := [] }
      headers := orElse c.headers "authorization" value }

/-- The headers that are sent: those of the call, and what the client adds. -/
def sentHeaders (c : Call) : Headers :=
  orElse (orElse c.headers "accept" (Bytes.ofText "*/*")) "host" (Bytes.ofText c.url.authorityText)

/-- The request that reaches the host, if its body can be sent. -/
def sent? (c : Call) : Option Sent :=
  (c.payload.sent? c.method c.headers).map fun body =>
    ⟨c.method, String.ofList c.url.target, c.sentHeaders, body⟩

/-! ## Redirections -/

/-- The headers that describe a body. -/
def bodyHeaders : List String :=
  ["transfer-encoding", "content-encoding", "content-type", "content-length"]

/-- The headers that no other host may see. -/
def secretHeaders : List String :=
  ["authorization", "cookie", "cookie2", "proxy-authorization", "www-authenticate"]

/-- The call for another place; another host does not see the secrets. -/
def moved (c : Call) (url : Url) : Call :=
  let h := if url.authorityText == c.url.authorityText then c.headers
    else c.headers.without secretHeaders
  { c with url, headers := ("referer", Bytes.ofText c.url.text) :: h.without ["referer"] }

/-- The same call without body. -/
def asGet (c : Call) : Call :=
  { c with
    method := if c.method == "HEAD" then "HEAD" else "GET"
    headers := c.headers.without bodyHeaders
    payload := .nothing }

/-- The statuses that redirect, and those of them that keep method and body. -/
def redirections : List Nat := [301, 302, 303, 307, 308]

def keeping : List Nat := [307, 308]

/-- The place to which an answer redirects, if it names one. -/
def place? (r : Response) : Option String :=
  if redirections.contains r.status then (r.headers.first? "location").bind Bytes.text? else none

/-- What follows on an answer. -/
inductive Next where
  /-- Nothing: the answer stands. -/
  | done
  | call (c : Call)
  /-- A place that no call can reach. -/
  | lost

def next (c : Call) (r : Response) : Next :=
  match (place? r).map c.url.lead with
  | some (.url url) => .call ((if keeping.contains r.status then c else c.asGet).moved url)
  | some .elsewhere => .lost
  | some .nowhere | none => .done

end Call

/-! ## Hosts -/

/-- Hosts with a state. Every contact changes it. Names are looked up when a place is dialled, and what is
found may be another host each time; a place is asked only when it was dialled and reached. -/
structure Hosts (σ : Type) where
  /-- Connects to a place. Is it reached? -/
  dial : σ → Place → σ × Bool
  /-- A request and its answer, unless the host closes the connection too early. -/
  ask : σ → Place → Sent → σ × Option Answer
  /-- All that is written to a raw connection, and all that comes back. -/
  converse : σ → Place → Bytes → σ × Option Bytes
  /-- What a host that switched protocols sends for the bytes that it gets then. -/
  switched : σ → Place → Bytes → Bytes

namespace Hosts

variable {σ : Type}

/-- Connects for a call, if its URL can be asked for. -/
def connect (hosts : Hosts σ) (s : σ) (c : Call) : σ × Bool :=
  if c.url.isTarget then hosts.dial s c.url.place else (s, false)

/-- The call over a connection; it comes to nothing if its body cannot be sent. -/
def exchange (hosts : Hosts σ) (s : σ) (c : Call) : σ × Option Response :=
  match c.sent? with
  | some sent =>
    let (s, answer) := hosts.ask s c.url.place sent
    (s, answer.map (·.response))
  | none => (s, none)

/-- Makes a call; a redirection is an answer like any other. -/
def call (hosts : Hosts σ) (s : σ) (c : Call) : σ × Option Response :=
  match hosts.connect s c with
  | (s, true) => hosts.exchange s c
  | (s, false) => (s, none)

/-- Makes a call and follows at most the given number of redirections. -/
def callFollowing (hosts : Hosts σ) : Nat → σ → Call → σ × Option Response
  | limit, s, c =>
    match hosts.call s c with
    | (s, none) => (s, none)
    | (s, some r) =>
      match c.next r, limit with
      | .done, _ => (s, some r)
      | .call next, limit + 1 => callFollowing hosts limit s next
      | .call _, 0 | .lost, _ => (s, none)

end Hosts

end HostFleet.Http
