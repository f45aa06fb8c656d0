import HostFleet.Address.Basic
import HostFleet.Json.Basic
import HostFleet.Moment
import HostFleet.Toml.Document

/-! # Settings

The configuration of a controller.

* `Settings.ofToml?`: reads a TOML text over the defaults; keys that are not known are passed over.
* `Settings.override`: applies environment variables, `Settings.validate` checks the result.
* `Settings.resolve`: the three together.
* `Settings.maxHeartbeatAge?`: after how long a silent peer is evicted.
-/

set_option autoImplicit false

namespace HostFleet

structure Settings where
  /-- Group and port of the heartbeats. -/
  multicastAddr : String
  /-- Where clients are served. -/
  proxyAddr : String
  /-- Where health and statistics are shown. -/
  monitorAddr : String
  /-- Where reports are taken. -/
  internalAddr : String
  timeoutSecs : Nat
  heartbeatIntervalSecs : Nat
  shutdownGraceSecs : Nat
  /-- The announced name; that of the machine when none is given. -/
  hostname : Option String
  /-- The announced health code. -/
  status : Int
  /-- The registry in which images are looked for. -/
  imageRegistry : String
  /-- Do the records of an evicted host go with it? -/
  cascadeOnEviction : Bool
  deriving DecidableEq, Repr

namespace Settings

def defaults : Settings where
  multicastAddr := "239.255.43.99:1889"
  proxyAddr := "tcp://127.0.0.1:9000"
  monitorAddr := "tcp://127.0.0.1:9001"
  internalAddr := "tcp://127.0.0.1:9002"
  timeoutSecs := 5
  heartbeatIntervalSecs := 3
  shutdownGraceSecs := 5
  hostname := none
  status := 1
  imageRegistry := ""
  cascadeOnEviction := false

def toJson (s : Settings) : Json :=
  .object [("multicast_addr", .text s.multicastAddr), ("proxy_addr", .text s.proxyAddr),
    ("monitor_addr", .text s.monitorAddr), ("internal_addr", .text s.internalAddr),
    ("timeout_secs", Json.ofInt s.timeoutSecs),
    ("heartbeat_interval_secs", Json.ofInt s.heartbeatIntervalSecs),
    ("shutdown_grace_secs", Json.ofInt s.shutdownGraceSecs),
    ("hostname", match s.hostname with
      | some name => .text name
      | none => .null),
    ("status", Json.ofInt s.status), ("image_registry", .text s.imageRegistry),
    ("cascade_on_eviction", .bool s.cascadeOnEviction)]

/-! ## Reading -/

/-- The fault of a text that is no configuration. -/
def unreadable : Fault := .config "TOML parse error"

def string? : Toml.Item → Option String
  | .scalar (.string s) => some s
  | _ => none

def integer? (low high : Int) : Toml.Item → Option Int
  | .scalar (.integer i) => if low ≤ i ∧ i ≤ high then some i else none
  | _ => none

def natural? (item : Toml.Item) : Option Nat :=
  (integer? 0 Decimal.maxInt64 item).map Int.toNat

def boolean? : Toml.Item → Option Bool
  | .scalar (.boolean b) => some b
  | _ => none

/-- The value of a key, or the default when the key is missing. -/
def valueOr {α : Type} (fields : Toml.Fields) (key : String) (default : α)
    (read : Toml.Item → Option α) : Option α :=
  match fields.lookup key with
  | some item => read item
  | none => some default

def ofFields? (fields : Toml.Fields) : Option Settings := do
  let d := defaults
  return {
    multicastAddr := ← valueOr fields "multicast_addr" d.multicastAddr string?
    proxyAddr := ← valueOr fields "proxy_addr" d.proxyAddr string?
    monitorAddr := ← valueOr fields "monitor_addr" d.monitorAddr string?
    internalAddr := ← valueOr fields "internal_addr" d.internalAddr string?
    timeoutSecs := ← valueOr fields "timeout_secs" d.timeoutSecs natural?
    heartbeatIntervalSecs :=
      ← valueOr fields "heartbeat_interval_secs" d.heartbeatIntervalSecs natural?
    shutdownGraceSecs := ← valueOr fields "shutdown_grace_secs" d.shutdownGraceSecs natural?
    hostname := ← valueOr fields "hostname" d.hostname fun item => (string? item).map some
    status := ← valueOr fields "status" d.status (integer? Decimal.minInt32 Decimal.maxInt32)
    imageRegistry := ← valueOr fields "image_registry" d.imageRegistry string?
    cascadeOnEviction := ← valueOr fields "cascade_on_eviction" d.cascadeOnEviction boolean? }

/-- The settings of a TOML text. -/
def ofToml? (text : String) : Except Fault Settings :=
  match (Toml.parse? text).bind ofFields? with
  | some s => .ok s
  | none => .error unreadable

/-! ## Environment -/

/-- The variables of an environment; a value that is no text is none. -/
abbrev Environment := List (String × Bytes)

def valueOf? (env : Environment) (name : String) : Option String :=
  (env.lookup name).bind Bytes.text?

/-- The settings with those that the environment gives. -/
def override (env : Environment) (s : Settings) : Except Fault Settings :=
  let s := { s with
    multicastAddr := (valueOf? env "FLEET_MULTICAST_ADDR").getD s.multicastAddr
    proxyAddr := (valueOf? env "FLEET_PROXY_ADDR").getD s.proxyAddr
    monitorAddr := (valueOf? env "FLEET_MONITOR_ADDR").getD s.monitorAddr
    internalAddr := (valueOf? env "FLEET_INTERNAL_ADDR").getD s.internalAddr
    hostname := (valueOf? env "FLEET_HOSTNAME").map some |>.getD s.hostname }
  match valueOf? env "FLEET_TIMEOUT" with
  | none => .ok s
  | some value =>
    match Decimal.uint64? value.toList with
    | some n => .ok { s with timeoutSecs := n }
    | none => .error (.config ("FLEET_TIMEOUT is not a number: " ++ value))

/-! ## Checks -/

/-- The group of the heartbeats. -/
def group? (s : Settings) : Option SocketAddress := SocketAddress.readV4? s.multicastAddr.toList

/-- Checks interval, group and the three addresses, in this order. -/
def validate (s : Settings) : Except Fault Unit :=
  if s.heartbeatIntervalSecs = 0 then
    .error (.config "heartbeat_interval_secs must be greater than zero")
  else if s.group?.isNone then
    .error (.config ("multicast_addr must be an IPv4 ip:port, got " ++ s.multicastAddr))
  else do
    let _ ← Address.split? s.proxyAddr
    let _ ← Address.split? s.monitorAddr
    let _ ← Address.split? s.internalAddr
    return ()

/-- Where a configuration comes from: no file, a file that cannot be read, or a text. -/
inductive Source where
  | missing
  | unreadable (path reason : String)
  | text (content : String)
  deriving DecidableEq, Repr

def ofSource (source : Source) : Except Fault Settings :=
  match source with
  | .missing => .ok defaults
  | .unreadable path reason => .error (.config ("cannot read " ++ path ++ ": " ++ reason))
  | .text content => ofToml? content

/-- The effective settings. -/
def resolve (source : Source) (env : Environment) : Except Fault Settings := do
  let s ← ofSource source
  let s ← override env s
  validate s
  return s

/-! ## Times -/

def timeout (s : Settings) : Span := .ofSeconds s.timeoutSecs

def heartbeatInterval (s : Settings) : Span := .ofSeconds s.heartbeatIntervalSecs

def shutdownGrace (s : Settings) : Span := .ofSeconds s.shutdownGraceSecs

/-- The seconds after which a silent peer is evicted: two intervals, if 64 bits hold them. -/
def maxHeartbeatAge? (s : Settings) : Option Nat :=
  if 2 * s.heartbeatIntervalSecs ≤ Decimal.maxNat64 then some (2 * s.heartbeatIntervalSecs) else none

/-- The announced name. -/
def announcedName (s : Settings) (machine : String) : String := s.hostname.getD machine

end Settings

end HostFleet
