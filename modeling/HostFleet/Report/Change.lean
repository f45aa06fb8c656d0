import HostFleet.Envelope
import HostFleet.Registry.Basic
import HostFleet.Report.Command
import HostFleet.Text.Blank

/-! # What a report changes

* `Report.Change`: the records or the removal that a report asks for; `Change.decode?` reads all of it
  before anything is changed.
* `Resource.withOwner` and `Resource.store`: the two steps by which a record is taken over, between
  which others may use the registry. A record that names no host belongs to the runtime host that has
  the reporter's IP.
* `Report.opened?` takes a payload apart, `Report.handle` carries out what it asks for, and
  `Report.handlePayload` does both.
-/

set_option autoImplicit false

namespace HostFleet.Report

/-- A record of either kind. -/
inductive Resource where
  | container (record : ContainerRecord)
  | image (record : ImageRecord)
  deriving Repr

namespace Resource

/-- The host that a record names. -/
def host : Resource → String
  | container r => r.host
  | image r => r.host

def withHost (resource : Resource) (host : String) : Resource :=
  match resource with
  | container r => container { r with host := host }
  | image r => image { r with host := host }

/-- Owner of a record whose reporter named no host; empty when no runtime host has its IP. -/
def ownerFor (r : Registry) (peer : Option Ip) : String := (peer.bind r.runtimeHostAt).getD ""

/-- The first step: a record without a host gets its owner. -/
def withOwner (r : Registry) (peer : Option Ip) (resource : Resource) : Resource :=
  if resource.host.isEmpty then resource.withHost (ownerFor r peer) else resource

/-- The second step: the record is stored under its id. -/
def store (r : Registry) : Resource → Registry
  | container record => r.registerContainer record.id record
  | image record => r.registerImage record.id record

/-- Both steps with nothing in between. -/
def report (r : Registry) (peer : Option Ip) (resource : Resource) : Registry :=
  (resource.withOwner r peer).store r

end Resource

/-- What a report asks for. -/
inductive Change where
  | take (resources : List Resource)
  | dropImage (id : String)
  | dropContainer (id : String)
  deriving Repr

namespace Change

/-- The change, record by record. -/
def apply (r : Registry) (peer : Option Ip) : Change → Registry
  | take resources => resources.foldl (fun r resource => resource.report r peer) r
  | dropImage id => r.unregisterImage id
  | dropContainer id => r.unregisterContainer id

/-! ## Reading -/

/-- How many brackets may stand around each other inside a record. -/
def recordDepth : Nat := Json.maxDepth - 1

def decodeOne? {α : Type} (read : Nat → Json.Node → Option α) (data : Bytes) :
    Except Fault α :=
  match (Json.Node.parse? data).bind (read recordDepth) with
  | some record => .ok record
  | none => .error (.json "")

def readList? {α : Type} (read : Nat → Json.Node → Option α) : Json.Node → Option (List α)
  | .array items => items.mapM (read (recordDepth - 1))
  | _ => none

def decodeList? {α : Type} (read : Nat → Json.Node → Option α) (data : Bytes) :
    Except Fault (List α) :=
  match (Json.Node.parse? data).bind (readList? read) with
  | some records => .ok records
  | none => .error (.json "")

/-- The id of a deleted container: bare, or as a JSON string. -/
def containerId? (data : Bytes) : Except Fault String :=
  match Bytes.text? data with
  | none => .error (.badParameter "container id is not UTF-8")
  | some text =>
    let text := Text.trimList text.toList
    let id? : Except Fault String := match text with
      | '"' :: _ =>
        match (Json.Node.parse? (Bytes.ofText (String.ofList text))).bind (·.string?) with
        | some id => .ok id
        | none => .error (.json "")
      | _ => .ok (String.ofList text)
    match id? with
    | .ok id => if id.isEmpty then .error (.badParameter "empty container id") else .ok id
    | .error fault => .error fault

/-- The change that a command asks for with its data. -/
def decode? (command : ReportCommand) (data : Bytes) : Except Fault Change :=
  match command with
  | .imageList => (decodeList? ImageRecord.ofNode? data).map fun rs => take (rs.map .image)
  | .imageCreated | .imageUpdated =>
    (decodeOne? ImageRecord.ofNode? data).map fun r => take [.image r]
  | .imageDeleted => (decodeOne? ImageRecord.ofNode? data).map fun r => dropImage r.id
  | .containerList =>
    (decodeList? ContainerRecord.ofNode? data).map fun rs => take (rs.map .container)
  | .containerCreated | .containerUpdated =>
    (decodeOne? ContainerRecord.ofNode? data).map fun r => take [.container r]
  | .containerDeleted => (containerId? data).map dropContainer

end Change

/-! ## Payloads -/

/-- Handles the data of a command. -/
def handle (r : Registry) (peer : Option Ip) (command : ReportCommand) (data : Bytes) :
    Registry × Except Fault Unit :=
  match Change.decode? command data with
  | .ok change => (change.apply r peer, .ok ())
  | .error fault => (r, .error fault)

/-- Command and data of a payload. -/
def opened? (payload : Bytes) : Except Fault (ReportCommand × Bytes) :=
  match Envelope.split payload with
  | none => .error .malformedEnvelope
  | some (data, name) =>
    match ReportCommand.ofWire? name with
    | none => .error (.unknownCommand (Bytes.lossy name))
    | some command => .ok (command, data)

/-- Handles a payload; answers its command, or why it was refused. -/
def handlePayload (r : Registry) (peer : Option Ip) (payload : Bytes) :
    Registry × Except Fault ReportCommand :=
  match opened? payload with
  | .error fault => (r, .error fault)
  | .ok (command, data) =>
    let (r, result) := handle r peer command data
    (r, result.map fun _ => command)

end HostFleet.Report
