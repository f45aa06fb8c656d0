import HostFleet.Address.Basic
import HostFleet.Engine.Basic
import HostFleet.Http.Client
import HostFleet.Text.Blank

/-! # The engine of a host, over HTTP

* `Engine.Client`: a client of the hosts, connected to the engine at a URL.
* `Engine.overHttp`: the engine that it is; each of its calls is one HTTP call.
-/

set_option autoImplicit false

namespace HostFleet.Engine

open Http (Hosts Payload Response Url)

/-- The state of a client. -/
structure Client (σ : Type) where
  hosts : σ
  /-- The URL of the engine that it is connected to. -/
  base : String

namespace Client

/-- How many redirections are followed. -/
def maxRedirections : Nat := 10

/-- The fault of a call that did not complete. -/
def incomplete : Fault := .http ""

/-- The message of a refusal: what the engine wrote, or its status when it wrote nothing. -/
def refusal (r : Response) : String :=
  let text := if r.broken then "" else Text.trim (Bytes.lossy r.body)
  if text.isEmpty then "runtime answered " ++ Http.statusText r.status else text

/-- The answer, unless the engine refused. -/
def accepted (r : Response) : Except Fault Response :=
  if Http.isSuccess r.status then .ok r else .error (.ofEngine (refusal r))

/-- The body of an answer, if all of it came. -/
def wholeBody (r : Response) : Except Fault Bytes :=
  if r.broken then .error incomplete else .ok r.body

variable {σ : Type}

/-- Posts to the engine. -/
def post (net : Hosts σ) (c : Client σ) (url : Option Url) (payload : Option Json) :
    Client σ × Except Fault Response :=
  match url with
  | none => (c, .error incomplete)
  | some url =>
    let call : Http.Call := match payload with
      | some value =>
        ⟨"POST", url, [("content-type", Bytes.ofText "application/json")],
          .whole (Bytes.ofText value.render)⟩
      | none => ⟨"POST", url, [], .nothing⟩
    match net.callFollowing maxRedirections c.hosts call.authorized with
    | (hosts, none) => ({ c with hosts }, .error incomplete)
    | (hosts, some r) => ({ c with hosts }, accepted r)

/-- Connects to the engine at an address. -/
def connect (c : Client σ) (address : String) : Client σ × Except Fault Unit :=
  match Address.engineUrl? address with
  | .ok base => ({ c with base }, .ok ())
  | .error fault => (c, .error fault)

/-- Pulls an image; it is there when the answer has ended. -/
def pull (net : Hosts σ) (c : Client σ) (reference : String) : Client σ × Except Fault Unit :=
  let url := (Url.parse? (c.base ++ "/images/create")).map (·.withField "fromImage" reference)
  let (c, r) := c.post net url none
  (c, r.bind fun r => (wholeBody r).map fun _ => ())

/-- The id of a created container. -/
def createdId? (n : Json.Node) : Option String :=
  match n with
  | .object fields => do
    let p ← Json.Parts.ofFields? (Json.oneOf ["Id"]) fields
    p.required "Id" (·.string?)
  | .array items => do
    let p ← Json.Parts.ofItems? ["Id"] items
    p.required "Id" (·.string?)
  | _ => none

/-- The id in the answer to a creation. -/
def readCreated (r : Response) : Except Fault String :=
  (wholeBody r).bind fun body =>
    match (Json.Node.parse? body).bind createdId? with
    | some id => .ok id
    | none => .error incomplete

def create (net : Hosts σ) (c : Client σ) (options : Options) :
    Client σ × Except Fault String :=
  let (c, r) := c.post net (Url.parse? (c.base ++ "/containers/create")) (some options.toJson)
  (c, r.bind readCreated)

def start (net : Hosts σ) (c : Client σ) (id : String) (hostConfig : Json) :
    Client σ × Except Fault Unit :=
  let (c, r) :=
    c.post net (Url.parse? (c.base ++ "/containers/" ++ id ++ "/start")) (some hostConfig)
  (c, r.map fun _ => ())

end Client

/-- The engines of hosts as their clients know them. -/
def overHttp {σ : Type} (net : Http.Hosts σ) : Engine (Client σ) where
  connect := Client.connect
  pull := Client.pull net
  create := Client.create net
  start := Client.start net

end HostFleet.Engine
