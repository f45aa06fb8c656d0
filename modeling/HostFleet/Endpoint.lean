import HostFleet.Address.Basic
import HostFleet.Json.Parts
import HostFleet.Moment
import HostFleet.Role

/-! # Endpoints

An endpoint is an address at which a member of the fleet can be reached.

* `Endpoint.isStale`: a peer that was last seen too long ago; an endpoint of this controller never is.
* `Endpoint.toJson`, `Endpoint.ofNode?`: its JSON form, with the time in whole seconds.
-/

set_option autoImplicit false

namespace HostFleet

/-- Who keeps an endpoint alive. -/
inductive Lifetime where
  /-- It belongs to this controller and stays. -/
  | local
  /-- It stays while it is heard of. -/
  | peer
  deriving DecidableEq, Repr

def Lifetime.name : Lifetime → String
  | .local => "Local"
  | .peer => "Peer"

def Lifetime.ofName? (s : String) : Option Lifetime :=
  [Lifetime.local, Lifetime.peer].find? (·.name == s)

structure Endpoint where
  address : String
  hostname : String
  role : Role
  status : Int
  lastSeen : Moment
  lifetime : Lifetime
  deriving DecidableEq, Repr

namespace Endpoint

def isLocal (e : Endpoint) : Bool := e.lifetime = .local

/-- The greatest age in milliseconds that is told apart. -/
def maxMillis : Nat := 9223372036854775807

/-- Was the peer last seen longer than `maxAge` ago, in whole milliseconds? -/
def isStale (e : Endpoint) (now : Moment) (maxAge : Span) : Bool :=
  !e.isLocal && ((min maxAge.millis maxMillis : Nat) : Int) < now.millisSince e.lastSeen

def authority (e : Endpoint) : String := Address.authority e.address

/-! ## JSON -/

def fieldNames : List String :=
  ["Address", "Hostname", "Role", "Status", "Timestamp", "Lifetime"]

/-- The value of a name, written as the name or as an object that holds it with nothing. -/
def variant? {α : Type} (ofName? : String → Option α) : Json.Node → Option α
  | .string (some name) => ofName? name
  | .object [(some name, .null)] => ofName? name
  | _ => none

/-- The seconds that a calendar of 262143 years either way can hold. -/
def timestamp? (n : Json.Node) : Option Moment :=
  (n.integer? (-8334601228800) 8210266876799).map fun s => .ofParts s 0

def parts? : Json.Node → Option Json.Parts
  | .object fields => Json.Parts.ofFields? (Json.oneOf fieldNames) fields
  | .array items => Json.Parts.ofItems? fieldNames items
  | _ => none

/-- Reads an endpoint; other fields are passed over. -/
def ofNode? (n : Json.Node) : Option Endpoint := do
  let p ← parts? n
  return {
    address := ← p.required "Address" (·.string?)
    hostname := ← p.required "Hostname" (·.string?)
    role := ← p.required "Role" (variant? Role.ofJsonName?)
    status := ← p.required "Status" (·.integer? Decimal.minInt32 Decimal.maxInt32)
    lastSeen := ← p.required "Timestamp" timestamp?
    lifetime := ← p.required "Lifetime" (variant? Lifetime.ofName?) }

def toJson (e : Endpoint) : Json :=
  .object [("Address", .text e.address), ("Hostname", .text e.hostname),
    ("Role", .text e.role.jsonName), ("Status", Json.ofInt e.status),
    ("Timestamp", Json.ofInt e.lastSeen.seconds), ("Lifetime", .text e.lifetime.name)]

end Endpoint

end HostFleet
