import HostFleet.Route.Pattern

/-! # Route tables

* `Policy`: how a request finds its host.
* `Table.resolve?`: the route of a request; an exact pattern goes before one with a name, and among
  those the first wins. A path that has no route is tried once more without its version.
-/

set_option autoImplicit false

namespace HostFleet.Route

inductive Policy where
  /-- The host named by the `host` parameter. -/
  | explicitHost
  /-- The host named by the `host` parameter, else any runtime host. -/
  | hostOrRandom
  /-- The registry, unless a `host` is named. -/
  | listImages
  | listContainers
  /-- The owner of the image that the path names. -/
  | byImage
  /-- The owner of the container that the path names. -/
  | byContainer
  /-- The owner of the `container` parameter, from query or form, else the named `host`. -/
  | commit
  /-- The runtime host that is next to get a container. -/
  | createContainer
  | listControllers
  | listRuntimeHosts
  | listAgents
  | createServer
  | deleteServer
  /-- An action on a container by another path. -/
  | serverAction (action : String)
  deriving DecidableEq, Repr

structure Entry where
  method : String
  pattern : Pattern
  policy : Policy
  deriving DecidableEq, Repr

/-- What a request resolves to. -/
structure Match where
  policy : Policy
  name : Option String
  deriving DecidableEq, Repr

abbrev Table := List Entry

namespace Table

/-- Adds a route at the end. -/
def route (t : Table) (method pattern : String) (policy : Policy) : Table :=
  t ++ [⟨method, Pattern.parse pattern, policy⟩]

/-- The match of an entry with a path. -/
def found? (path : List Char) (e : Entry) : Option Match :=
  (e.pattern.matches? path).map fun name => ⟨e.policy, name⟩

/-- The route of a method and a path as it stands. -/
def resolveUnversioned? (t : Table) (method : String) (path : List Char) : Option Match :=
  let candidates := t.filter fun e => e.method == method
  match (candidates.filter fun e => e.pattern.isExact).findSome? (found? path) with
  | some m => some m
  | none => candidates.findSome? (found? path)

def isVersionChar (c : Char) : Bool := ('0' ≤ c && c ≤ '9') || c == '.'

/-- The path without the version before it, `/v` and digits and dots. -/
def stripVersion? : List Char → Option (List Char)
  | '/' :: 'v' :: rest =>
    let version := rest.takeWhile isVersionChar
    match rest.dropWhile isVersionChar with
    | '/' :: path => if version.isEmpty then none else some ('/' :: path)
    | _ => none
  | _ => none

/-- The route of a request. -/
def resolve? (t : Table) (method : String) (path : String) : Option Match :=
  match t.resolveUnversioned? method path.toList with
  | some m => some m
  | none => (stripVersion? path.toList).bind (t.resolveUnversioned? method)

end Table

end HostFleet.Route
