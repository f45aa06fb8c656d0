import HostFleet.Text.Split

/-! # Faults

What can go wrong, why, and how a client is told.

* `Fault`: the causes; `Fault.message` is the text of each.
* `FaultKind`: the classes that decide an HTTP status.
* `FaultKind.classify`: the class of a message that came from a container engine.
-/

set_option autoImplicit false

namespace HostFleet

/-! ## Kinds -/

inductive FaultKind where
  | notFound
  | badParameter
  | conflict
  | impossible
  | unauthorized
  | forbidden
  | internal
  deriving DecidableEq, Repr

namespace FaultKind

/-- The phrases by which an engine's message is told apart, in the order they are tried. -/
def phrases : List (String × FaultKind) :=
  [("No such", .notFound), ("Bad parameter", .badParameter), ("Conflict", .conflict),
    ("Impossible", .impossible), ("Wrong login/password", .unauthorized),
    ("hasn't been activated", .forbidden)]

/-- The kind of the first phrase that the message contains. -/
def classify (message : String) : FaultKind :=
  match phrases.find? fun (phrase, _) => Text.contains phrase.toList message.toList with
  | some (_, kind) => kind
  | none => .internal

/-- The HTTP status of a fault of this kind. -/
def status : FaultKind → Nat
  | notFound => 404
  | badParameter => 400
  | conflict => 409
  | impossible => 406
  | unauthorized => 401
  | forbidden => 403
  | internal => 500

/-- The code shown for a fault that has no code of its own. -/
def code : FaultKind → String
  | notFound => "NOT_FOUND"
  | badParameter => "BAD_PARAMETER"
  | conflict => "CONFLICT"
  | impossible => "NOT_ACCEPTABLE"
  | unauthorized => "UNAUTHORIZED"
  | forbidden => "FORBIDDEN"
  | internal => "INTERNAL_ERROR"

end FaultKind

/-! ## Causes -/

inductive Fault where
  /-- A file or socket operation failed. -/
  | io (detail : String)
  /-- A text is not the JSON that was expected. -/
  | json (detail : String)
  /-- A call to a container engine did not complete. -/
  | http (detail : String)
  /-- The payload does not fit a frame. -/
  | frameTooLarge (size : Nat)
  /-- The payload has no command. -/
  | malformedEnvelope
  | unknownCommand (name : String)
  | invalidHeartbeat (reason : String)
  | invalidAddress (reason : String)
  | config (reason : String)
  | badParameter (reason : String)
  /-- The container engine refused a call. -/
  | engine (kind : FaultKind) (message : String)
  | unsupportedProtocol (version : String)
  /-- No host is known for the request. -/
  | missingRoute
  /-- The host could not be reached or did not answer. -/
  | badGateway (reason : String)
  deriving DecidableEq, Repr

namespace Fault

/-- A container engine's refusal, classified by its message. -/
def ofEngine (message : String) : Fault := .engine (FaultKind.classify message) message

/-- A request's body cannot be read to its end, or is too long for it. -/
def unreadableBody : Fault := .badParameter "unreadable body"

/-- The text of the fault; a cause without detail shows its class alone. -/
def message : Fault → String
  | io detail => labelled "IO error" detail
  | json detail => labelled "JSON serialization error" detail
  | http detail => labelled "HTTP client error" detail
  | frameTooLarge size =>
    "Frame payload of " ++ toString size ++ " bytes exceeds the 65535 byte limit"
  | malformedEnvelope => "Malformed envelope: no command separator found"
  | unknownCommand name => "Unknown command: " ++ name
  | invalidHeartbeat reason => "Invalid heartbeat: " ++ reason
  | invalidAddress reason => "Invalid address: " ++ reason
  | config reason => "Configuration error: " ++ reason
  | badParameter reason => "Bad parameter: " ++ reason
  | engine _ message => message
  | unsupportedProtocol version => "Unsupported protocol: " ++ version
  | missingRoute => "No route to a backend host"
  | badGateway reason => "Bad gateway: " ++ reason
where
  labelled (label detail : String) : String :=
    if detail.isEmpty then label else label ++ ": " ++ detail

def kind : Fault → FaultKind
  | badParameter _ | invalidHeartbeat _ | invalidAddress _ | unsupportedProtocol _
  | frameTooLarge _ => .badParameter
  | missingRoute => .notFound
  | engine kind _ => kind
  | _ => .internal

/-- The HTTP status a client gets. -/
def status : Fault → Nat
  | badGateway _ => 502
  | fault => fault.kind.status

/-- The code a client gets. -/
def code : Fault → String
  | missingRoute => "MISSING_ROUTE"
  | unsupportedProtocol _ => "UNSUPPORTED_PROTOCOL"
  | badGateway _ => "BAD_GATEWAY"
  | frameTooLarge _ => "FRAME_TOO_LARGE"
  | malformedEnvelope => "MALFORMED_ENVELOPE"
  | unknownCommand _ => "UNKNOWN_COMMAND"
  | invalidHeartbeat _ => "INVALID_HEARTBEAT"
  | invalidAddress _ => "INVALID_ADDRESS"
  | config _ => "CONFIG_ERROR"
  | json _ => "JSON_ERROR"
  | fault => fault.kind.code

end Fault

end HostFleet
