import HostFleet.Book
import HostFleet.Endpoint
import HostFleet.Record.Container
import HostFleet.Record.Image

/-! # The registry

Who is in the fleet, and which host has which container and image.

* `Registry`: the endpoints, the records, and the indexes kept beside them: the members of each role,
  the owner of each record, and the number of the last assignment of each host.
* `addEndpoint`, `refresh`, `recordHeartbeat`, `evict`: membership.
* `selectHost`: placement, by the least recent assignment.
* `registerContainer`, `registerImage` and their opposites: the records.
* `allContainers`, `allImages`: the records, newest first.
-/

set_option autoImplicit false

namespace HostFleet

/-- The addresses of each role. -/
structure RoleIndex where
  agents : Book Unit
  runtimeHosts : Book Unit
  controllerInternals : Book Unit
  controllerProxies : Book Unit
  deriving DecidableEq, Repr

namespace RoleIndex

def empty : RoleIndex := ⟨∅, ∅, ∅, ∅⟩

/-- The addresses of one role. -/
def of (i : RoleIndex) : Role → Book Unit
  | .agentInternal => i.agents
  | .containerRuntimeInternal => i.runtimeHosts
  | .controllerInternal => i.controllerInternals
  | .controllerProxy => i.controllerProxies

def modify (i : RoleIndex) (r : Role) (f : Book Unit → Book Unit) : RoleIndex :=
  match r with
  | .agentInternal => { i with agents := f i.agents }
  | .containerRuntimeInternal => { i with runtimeHosts := f i.runtimeHosts }
  | .controllerInternal => { i with controllerInternals := f i.controllerInternals }
  | .controllerProxy => { i with controllerProxies := f i.controllerProxies }

theorem of_modify (i : RoleIndex) (r s : Role) (f : Book Unit → Book Unit) :
    (i.modify r f).of s = if s = r then f (i.of r) else i.of s := by
  cases r <;> cases s <;> simp [modify, of]

def insert (i : RoleIndex) (r : Role) (address : String) : RoleIndex :=
  i.modify r fun b => b.set address ()

def erase (i : RoleIndex) (r : Role) (address : String) : RoleIndex :=
  i.modify r fun b => b.erase address

end RoleIndex

structure Registry where
  /-- Do the records of an evicted host go with it? -/
  cascade : Bool
  endpoints : Book Endpoint
  roles : RoleIndex
  containers : Book ContainerRecord
  containerOwners : Book String
  images : Book ImageRecord
  imageOwners : Book String
  /-- The number of the last assignment of each host that got one. -/
  assignments : Book Nat
  /-- The number of the last assignment of all. -/
  lastAssignment : Nat
  deriving Repr

/-- What a heartbeat did. -/
inductive HeartbeatOutcome where
  /-- The address was not known; the endpoint was created. -/
  | joined
  /-- The address was known; only the time was taken over. -/
  | refreshed
  deriving DecidableEq, Repr

namespace Registry

def empty (cascade : Bool) : Registry := ⟨cascade, ∅, .empty, ∅, ∅, ∅, ∅, ∅, 0⟩

/-! ## Endpoints -/

/-- Puts an endpoint under its address, over the one that was there. -/
def addEndpoint (r : Registry) (e : Endpoint) : Registry :=
  let roles := match r.endpoints.get? e.address with
    | some previous =>
      if previous.role = e.role then r.roles else r.roles.erase previous.role e.address
    | none => r.roles
  { r with roles := roles.insert e.role e.address, endpoints := r.endpoints.set e.address e }

/-- Removes an endpoint with its place in the index and its assignment. -/
def removeEndpoint (r : Registry) (address : String) : Registry :=
  match r.endpoints.get? address with
  | some e =>
    { r with
      endpoints := r.endpoints.erase address
      roles := r.roles.erase e.role address
      assignments := r.assignments.erase address }
  | none => r

/-- The endpoints of a role, by address. -/
def members (r : Registry) (role : Role) : List Endpoint :=
  (r.roles.of role).names.filterMap r.endpoints.get?

/-- Takes over the time of a known endpoint. -/
def refresh (r : Registry) (address : String) (now : Moment) : Registry :=
  { r with endpoints := r.endpoints.update address fun e => { e with lastSeen := now } }

/-- Creates the endpoint at first sight, and afterwards only takes over the time. -/
def recordHeartbeat (r : Registry) (address hostname : String) (role : Role) (status : Int)
    (now : Moment) : Registry × HeartbeatOutcome :=
  if r.endpoints.contains address then (r.refresh address now, .refreshed)
  else (r.addEndpoint ⟨address, hostname, role, status, now, .peer⟩, .joined)

/-- Removes the records that a host owns. -/
def removeResourcesOf (r : Registry) (host : String) : Registry :=
  { r with
    containers := r.containers.filter fun id _ => r.containerOwners.get? id != some host
    containerOwners := r.containerOwners.filter fun _ owner => owner != host
    images := r.images.filter fun id _ => r.imageOwners.get? id != some host
    imageOwners := r.imageOwners.filter fun _ owner => owner != host }

/-- Removes an endpoint and, when records go with their host, its records. -/
def evictEndpoint (r : Registry) (address : String) : Registry :=
  let r := r.removeEndpoint address
  if r.cascade then r.removeResourcesOf address else r

/-- The endpoints that are stale, by address. -/
def stale (r : Registry) (now : Moment) (maxAge : Span) : List Endpoint :=
  r.endpoints.values.filter (·.isStale now maxAge)

/-- Evicts every stale endpoint; answers them by address. -/
def evict (r : Registry) (now : Moment) (maxAge : Span) : Registry × List Endpoint :=
  let gone := r.stale now maxAge
  (gone.foldl (fun r e => r.evictEndpoint e.address) r, gone)

/-! ## Placement -/

/-- The number of a host's last assignment, 0 if it never had one. -/
def assignment (r : Registry) (address : String) : Nat := (r.assignments.get? address).getD 0

/-- The endpoint with the least number, the first of several. -/
def leastAssigned (r : Registry) : List Endpoint → Option Endpoint
  | [] => none
  | e :: es =>
    match r.leastAssigned es with
    | none => some e
    | some best =>
      if r.assignment best.address < r.assignment e.address then some best else some e

/-- The runtime host whose last assignment is the longest ago; it is assigned the next container. -/
def selectHost (r : Registry) : Registry × Option Endpoint :=
  match r.leastAssigned (r.members .containerRuntimeInternal) with
  | none => (r, none)
  | some e =>
    let next := r.lastAssignment + 1
    ({ r with lastAssignment := next, assignments := r.assignments.set e.address next }, some e)

/-- The first runtime host whose address names the IP. -/
def runtimeHostAt (r : Registry) (ip : Ip) : Option String :=
  ((r.members .containerRuntimeInternal).find? fun e => Address.ip? e.address == some ip).map
    (·.address)

/-! ## Records -/

def registerContainer (r : Registry) (id : String) (record : ContainerRecord) : Registry :=
  { r with
    containerOwners := r.containerOwners.set id record.host
    containers := r.containers.set id record }

def unregisterContainer (r : Registry) (id : String) : Registry :=
  { r with
    containerOwners := r.containerOwners.erase id
    containers := r.containers.erase id }

def registerImage (r : Registry) (id : String) (record : ImageRecord) : Registry :=
  { r with
    imageOwners := r.imageOwners.set id record.host
    images := r.images.set id record }

def unregisterImage (r : Registry) (id : String) : Registry :=
  { r with
    imageOwners := r.imageOwners.erase id
    images := r.images.erase id }

/-- The owner recorded for a container, if it is not empty. -/
def containerOwner? (r : Registry) (id : String) : Option String :=
  (r.containerOwners.get? id).filter (!·.isEmpty)

/-- The owner recorded for an image, if it is not empty. -/
def imageOwner? (r : Registry) (id : String) : Option String :=
  (r.imageOwners.get? id).filter (!·.isEmpty)

/-- Newer before older, and by id among the equally old. -/
def listedBefore (created : Int) (id : String) (created' : Int) (id' : String) : Bool :=
  created' < created || (created' = created && id ≤ id')

def allContainers (r : Registry) : List ContainerRecord :=
  r.containers.values.mergeSort fun a b => listedBefore a.created a.id b.created b.id

def allImages (r : Registry) : List ImageRecord :=
  r.images.values.mergeSort fun a b => listedBefore a.created a.id b.created b.id

/-! ## Views -/

def agents (r : Registry) : List Endpoint := r.members .agentInternal

def runtimeHosts (r : Registry) : List Endpoint := r.members .containerRuntimeInternal

/-- The controllers as clients see them: their proxies. -/
def controllers (r : Registry) : List Endpoint := r.members .controllerProxy

/-- One of the endpoints of a role, as `choose` takes it from the list of them. -/
def randomEndpoint (r : Registry) (role : Role) (choose : List Endpoint → Option Endpoint) :
    Option Endpoint := choose (r.members role)

structure Stats where
  endpoints : Nat
  agents : Nat
  runtimeHosts : Nat
  controllerInternals : Nat
  controllerProxies : Nat
  containers : Nat
  images : Nat
  deriving DecidableEq, Repr

def stats (r : Registry) : Stats where
  endpoints := r.endpoints.size
  agents := r.roles.agents.size
  runtimeHosts := r.roles.runtimeHosts.size
  controllerInternals := r.roles.controllerInternals.size
  controllerProxies := r.roles.controllerProxies.size
  containers := r.containers.size
  images := r.images.size

namespace Stats

def toList (s : Stats) : List Nat :=
  [s.endpoints, s.agents, s.runtimeHosts, s.controllerInternals, s.controllerProxies,
    s.containers, s.images]

def toJson (s : Stats) : Json :=
  .object ((["endpoints", "agents", "runtime_hosts", "controller_internals",
    "controller_proxies", "containers", "images"].zip s.toList).map
      fun (name, n) => (name, Json.ofInt n))

end Stats

end Registry

end HostFleet
