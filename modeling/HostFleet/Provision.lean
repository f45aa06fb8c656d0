import HostFleet.Engine.Basic
import HostFleet.Registry.Basic
import HostFleet.Text.Blank

/-! # Provisioning

A client asks for a container by naming an image; it is answered at once, and the container is made
afterwards on the host that is next.

* `CreateRequest`: what the client sends; `accept` validates it and selects the host.
* `Provision.run`: pulls the image unless some host has it, creates the container and starts it.
-/

set_option autoImplicit false

namespace HostFleet

structure CreateRequest where
  imageId : String
  cmd : List String
  env : List String
  /-- Passed to the start of the container. -/
  hostConfig : Option Json
  deriving Repr

namespace CreateRequest

def fieldNames : List String := ["image_id", "cmd", "env", "host_config"]

/-- A value that may be null. -/
def nullable? (n : Json.Node) : Option (Option Json) :=
  match n with
  | .null => some none
  | n => (n.keep? (Json.maxDepth - 1)).map some

def parts? : Json.Node → Option Json.Parts
  | .object fields => Json.Parts.ofFields? (Json.oneOf fieldNames) fields
  | .array items => Json.Parts.ofItems? fieldNames items
  | _ => none

/-- Reads a request; other fields are passed over. -/
def ofNode? (n : Json.Node) : Option CreateRequest := do
  let p ← parts? n
  return {
    imageId := ← p.optional "image_id" "" (·.string?)
    cmd := ← p.optional "cmd" [] (·.strings?)
    env := ← p.optional "env" [] (·.strings?)
    hostConfig := ← p.optional "host_config" none nullable? }

def parse? (body : Bytes) : Option CreateRequest := (Json.Node.parse? body).bind ofNode?

end CreateRequest

/-- The answer to an accepted request. -/
structure ServerAccepted where
  requestId : String
  code : String
  message : String
  deriving DecidableEq, Repr

namespace ServerAccepted

def ofRequest (requestId : String) : ServerAccepted := ⟨requestId, "0", ""⟩

def fieldNames : List String := ["request_id", "code", "message"]

def parts? : Json.Node → Option Json.Parts
  | .object fields => Json.Parts.ofFields? (Json.oneOf fieldNames) fields
  | .array items => Json.Parts.ofItems? fieldNames items
  | _ => none

def ofNode? (n : Json.Node) : Option ServerAccepted := do
  let p ← parts? n
  return {
    requestId := ← p.required "request_id" (·.string?)
    code := ← p.required "code" (·.string?)
    message := ← p.required "message" (·.string?) }

def toJson (a : ServerAccepted) : Json :=
  .object [("request_id", .text a.requestId), ("code", .text a.code), ("message", .text a.message)]

end ServerAccepted

/-- The work behind an accepted request. -/
structure Provision where
  requestId : String
  host : Endpoint
  request : CreateRequest
  /-- The registry in which images are looked for; may be empty. -/
  imageRegistry : String
  deriving Repr

namespace Provision

/-- Accepts a request that names an image, and selects its host. -/
def accept (r : Registry) (request : CreateRequest) (imageRegistry requestId : String) :
    Registry × Except Fault Provision :=
  if (Text.trim request.imageId).isEmpty then (r, .error (.badParameter "image_id is required"))
  else match r.selectHost with
    | (r, some host) => (r, .ok ⟨requestId, host, request, imageRegistry⟩)
    | (r, none) => (r, .error .missingRoute)

def accepted (p : Provision) : ServerAccepted := .ofRequest p.requestId

/-- The text without slashes at its end. -/
def withoutSlashes (s : String) : String :=
  String.ofList (s.toList.reverse.dropWhile (· == '/')).reverse

/-- The image as the engine is told it, in the configured registry. -/
def imageReference (p : Provision) : String :=
  let image := Text.trim p.request.imageId
  let registry := withoutSlashes p.imageRegistry
  if registry.isEmpty then image else registry ++ "/" ++ image

/-- The options of the container. -/
def options (p : Provision) : Engine.Options :=
  ⟨p.imageReference, p.request.cmd, p.request.env, []⟩

/-- What an engine was asked, last first, and what came of it. -/
structure Outcome (σ : Type) where
  state : σ
  calls : List Engine.Call
  result : Except Fault String

/-- Makes the container: the first call that fails ends it. -/
def run {σ : Type} (engine : Engine σ) (s : σ) (r : Registry) (p : Provision) : Outcome σ :=
  let reference := p.imageReference
  let calls := [Engine.Call.connect p.host.address]
  match engine.connect s p.host.address with
  | (s, .error fault) => ⟨s, calls, .error fault⟩
  | (s, .ok ()) =>
    let (s, calls, pulled) :=
      if (r.imageOwner? p.request.imageId).isSome then (s, calls, Except.ok ())
      else
        let (s, result) := engine.pull s reference
        (s, .pull reference :: calls, result)
    match pulled with
    | .error fault => ⟨s, calls, .error fault⟩
    | .ok () =>
      let calls := .create p.options :: calls
      match engine.create s p.options with
      | (s, .error fault) => ⟨s, calls, .error fault⟩
      | (s, .ok id) =>
        let hostConfig := p.request.hostConfig.getD (.object [])
        let calls := .start id hostConfig :: calls
        match engine.start s id hostConfig with
        | (s, .error fault) => ⟨s, calls, .error fault⟩
        | (s, .ok ()) => ⟨s, calls, .ok id⟩

end Provision

/-! ## The resource in a request -/

namespace Server

/-- The one id that a deletion names. -/
def deleteTarget? (id : Option String) : Except Fault String :=
  let ids := Text.trimList ((id.map (·.toList)).getD [])
  if ids.isEmpty then .error (.badParameter "id is required")
  else if ids.contains ',' then
    .error (.badParameter "deleting multiple servers at once is not supported")
  else .ok (String.ofList ids)

end Server

end HostFleet
