import HostFleet.Http.Form
import HostFleet.Http.Message
import HostFleet.Provision
import HostFleet.Route.Standard

/-! # Dispatch

Every request to the proxy is resolved in the route table, and its policy decides what becomes of it.

* `Decision`: an answer made here, a host to pass the request on to, or an accepted creation.
* `decide`: the decision, and the registry after it.
* `retarget?`: the same request for another path.
-/

set_option autoImplicit false

namespace HostFleet.Proxy

open Http (Request Response Target)
open Route (Policy)

abbrev Params := List (String × String)

/-- What the proxy works with beside the registry. -/
structure Setup where
  routes : Route.Table
  /-- The registry in which images are looked for; may be empty. -/
  imageRegistry : String
  /-- The choice of one of several hosts. -/
  choose : List Endpoint → Option Endpoint
  /-- The id of the next accepted creation. -/
  requestId : String

inductive Decision where
  | answer (response : Response)
  /-- The request is passed on to the host, if there is one. -/
  | forward (host : Option String) (request : Request)
  | create (order : Provision)

/-! ## Parameters -/

def queryParams (request : Request) : Params :=
  match request.target.query with
  | some query => Http.Form.parse (Bytes.ofText query)
  | none => []

/-- The content type of a form. -/
def formType : List Char := "application/x-www-form-urlencoded".toList

def isForm (request : Request) : Bool :=
  match request.headers.text? "content-type" with
  | some value => formType.isPrefixOf value
  | none => false

/-- The longest body that is read here, in bytes. -/
def maxBody : Nat := 65536

/-- The body, unless it is too long or does not come to its end. -/
def readBody? (request : Request) : Except Fault Bytes :=
  if maxBody < request.body.length || request.broken then .error Fault.unreadableBody
  else .ok request.body

/-- The fields of a form, and the request with the body that was read; another body is left alone. -/
def formParams? (request : Request) : Except Fault (Request × Params) :=
  if !isForm request then .ok (request, [])
  else (readBody? request).map fun body =>
    ({ request with sized := true }, Http.Form.parse body)

/-- The named host without scheme, if anything is left of it. -/
def hostParam? (params : Params) : Option String :=
  ((Http.Form.get? params "host").map fun host => Address.authority (Text.trim host)).filter
    (!·.isEmpty)

/-- Is the body read for the decision? -/
def readsBody (policy : Policy) (request : Request) : Bool :=
  match policy with
  | .createServer => isReadable
  | .commit => isForm request && isReadable
  | _ => false
where
  isReadable : Bool :=
    match readBody? request with
    | .ok _ => true
    | .error _ => false

/-! ## Hosts -/

/-- The request aimed at another path, with its query. -/
def retarget? (target : Target) (path : String) : Except Fault Target :=
  let text := match target.query with
    | some query => path ++ "?" ++ query
    | none => path
  match Target.parse? text with
  | some t => .ok t
  | none => .error (.badParameter ("invalid path " ++ path))

/-- Where the owner of a container takes calls. -/
def containerHost? (r : Registry) (id : String) : Option String :=
  (r.containerOwner? id).map Address.authority

/-- Where the owner of an image takes calls. -/
def imageHost? (r : Registry) (id : String) : Option String :=
  (r.imageOwner? id).map Address.authority

/-- Where the committed container is, or the named host when no container is named. -/
def commitHost? (r : Registry) (params : Params) : Option String :=
  match (Http.Form.get? params "container").filter (!·.isEmpty) with
  | some id => containerHost? r id
  | none => hostParam? params

/-- An action on a container, for which the path is replaced. -/
def onContainer (r : Registry) (request : Request) (id path : String) : Decision :=
  match retarget? request.target path with
  | .ok target => .forward (containerHost? r id) { request with target }
  | .error fault => .answer (.ofFault fault)

def listing (items : List Json) : Decision := .answer (.json 200 (.array items))

def endpointListing (endpoints : List Endpoint) : Decision := listing (endpoints.map (·.toJson))

/-- A request to make a container. -/
def createServer (setup : Setup) (r : Registry) (request : Request) : Registry × Decision :=
  match readBody? request with
  | .error fault => (r, .answer (.ofFault fault))
  | .ok body =>
    match CreateRequest.parse? body with
    | none => (r, .answer (.ofFault (.badParameter "invalid JSON body")))
    | some create =>
      match Provision.accept r create setup.imageRegistry setup.requestId with
      | (r, .ok order) => (r, .create order)
      | (r, .error fault) => (r, .answer (.ofFault fault))

/-! ## Decisions -/

/-- The decision for a request that resolves to a policy and a name. -/
def decideBy (setup : Setup) (r : Registry) (request : Request) (policy : Policy) (name : String) :
    Registry × Decision :=
  let params := queryParams request
  match policy with
  | .explicitHost => (r, .forward (hostParam? params) request)
  | .hostOrRandom =>
    let host := match hostParam? params with
      | some host => some host
      | none => (r.randomEndpoint .containerRuntimeInternal setup.choose).map (·.authority)
    (r, .forward host request)
  | .listImages =>
    match hostParam? params with
    | some host => (r, .forward (some host) request)
    | none => (r, listing (r.allImages.map (·.toJson)))
  | .listContainers =>
    match hostParam? params with
    | some host => (r, .forward (some host) request)
    | none => (r, listing (r.allContainers.map (·.toJson)))
  | .byImage => (r, .forward (imageHost? r name) request)
  | .byContainer => (r, .forward (containerHost? r name) request)
  | .commit =>
    match formParams? request with
    | .error fault => (r, .answer (.ofFault fault))
    | .ok (request, form) => (r, .forward (commitHost? r (params ++ form)) request)
  | .createContainer =>
    let (r, host) := r.selectHost
    (r, .forward (host.map (·.authority)) request)
  | .listControllers => (r, endpointListing r.controllers)
  | .listRuntimeHosts => (r, endpointListing r.runtimeHosts)
  | .listAgents => (r, endpointListing r.agents)
  | .createServer => createServer setup r request
  | .deleteServer =>
    match Server.deleteTarget? (Http.Form.get? params "id") with
    | .error fault => (r, .answer (.ofFault fault))
    | .ok id => (r, onContainer r request id ("/containers/" ++ id))
  | .serverAction action =>
    (r, onContainer r request name ("/containers/" ++ name ++ "/" ++ action))

/-- The decision for a request. -/
def decide (setup : Setup) (r : Registry) (request : Request) : Registry × Decision :=
  match setup.routes.resolve? request.method request.target.route with
  | some found => decideBy setup r request found.policy (found.name.getD "")
  | none => (r, .answer .notFound)

end HostFleet.Proxy
