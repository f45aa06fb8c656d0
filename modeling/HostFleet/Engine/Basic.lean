import HostFleet.Fault
import HostFleet.Json.Parts
import HostFleet.Record.Container

/-! # Container engines

The container engine of a host creates, starts and pulls.

* `Engine.Options`: what a container is created from.
* `Engine.Call`: one call; `Engine` answers calls and changes its state by them.
-/

set_option autoImplicit false

namespace HostFleet

namespace Engine

structure Options where
  image : String
  cmd : List String
  env : List String
  /-- Passed on as it is, in the order of the names. -/
  extra : List (String × Json)
  deriving Repr

namespace Options

open ContainerRecord.toJson (textsField)

def forImage (image : String) : Options := ⟨image, [], [], []⟩

def fieldNames : List String := ["Image", "Cmd", "Env"]

/-- Reads options; around their other fields there may be `depth` brackets. -/
def ofNode? (depth : Nat) : Json.Node → Option Options
  | .object fields => do
    let p ← Json.Parts.ofFields? (Json.oneOf fieldNames) fields
    return {
      image := ← p.required "Image" (·.string?)
      cmd := ← p.optional "Cmd" [] (·.strings?)
      env := ← p.optional "Env" [] (·.strings?)
      extra := ← p.extra? depth }
  | _ => none

/-- The fields of the options; empty lists are left out. -/
def toJson (o : Options) : Json :=
  .object (("Image", .text o.image) ::
    (textsField "Cmd" o.cmd ++ textsField "Env" o.env ++ o.extra))

end Options

/-- A call to the engine of a host. -/
inductive Call where
  | connect (address : String)
  | pull (reference : String)
  | create (options : Options)
  | start (id : String) (hostConfig : Json)
  deriving Repr

end Engine

/-- An engine with a state: each call changes it and succeeds or fails. A creation answers the id. -/
structure Engine (σ : Type) where
  connect : σ → String → σ × Except Fault Unit
  pull : σ → String → σ × Except Fault Unit
  create : σ → Engine.Options → σ × Except Fault String
  start : σ → String → Json → σ × Except Fault Unit

end HostFleet
