import HostFleet.Route.Table

/-! # The standard routes

All requests that the controller answers or passes on.
-/

set_option autoImplicit false

namespace HostFleet.Route

/-- A pattern with a name between the texts. -/
def around (head tail : String) : Pattern := .named head.toList tail.toList

def path (whole : String) : Pattern := .exact whole.toList

def getRoutes : List (Pattern × Policy) :=
  [(path "/events", .explicitHost),
    (path "/info", .hostOrRandom),
    (path "/version", .hostOrRandom),
    (path "/images/json", .listImages),
    (path "/images/search", .explicitHost),
    (around "/images/" "/get", .byImage),
    (around "/images/" "/history", .byImage),
    (around "/images/" "/json", .byImage),
    (path "/containers/ps", .listContainers),
    (path "/containers/json", .listContainers),
    (around "/containers/" "/attach/ws", .byContainer),
    (around "/containers/" "/export", .byContainer),
    (around "/containers/" "/changes", .byContainer),
    (around "/containers/" "/json", .byContainer),
    (around "/containers/" "/top", .byContainer),
    (path "/controllers/json", .listControllers),
    (path "/dockers/json", .listRuntimeHosts),
    (path "/agents/json", .listAgents)]

def postRoutes : List (Pattern × Policy) :=
  [(path "/auth", .explicitHost),
    (path "/commit", .commit),
    (path "/build", .explicitHost),
    (path "/images/create", .hostOrRandom),
    (path "/images/load", .explicitHost),
    (around "/images/" "/insert", .byImage),
    (around "/images/" "/push", .byImage),
    (around "/images/" "/tag", .byImage),
    (path "/containers/create", .createContainer),
    (around "/containers/" "/kill", .byContainer),
    (around "/containers/" "/restart", .byContainer),
    (around "/containers/" "/start", .byContainer),
    (around "/containers/" "/stop", .byContainer),
    (around "/containers/" "/wait", .byContainer),
    (around "/containers/" "/resize", .byContainer),
    (around "/containers/" "/attach", .byContainer),
    (around "/containers/" "/copy", .byContainer),
    (path "/server", .createServer),
    (around "/server/" "/start", .serverAction "start"),
    (around "/server/" "/stop", .serverAction "stop")]

def deleteRoutes : List (Pattern × Policy) :=
  [(around "/containers/" "", .byContainer),
    (around "/images/" "", .byImage),
    (path "/server", .deleteServer)]

/-- The whole table. -/
def Table.standard : Table :=
  entries "GET" getRoutes ++ entries "POST" postRoutes ++ entries "DELETE" deleteRoutes
where
  entries (method : String) (routes : List (Pattern × Policy)) : Table :=
    routes.map fun (pattern, policy) => ⟨method, pattern, policy⟩

end HostFleet.Route
