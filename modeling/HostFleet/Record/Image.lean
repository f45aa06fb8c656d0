import HostFleet.Record.Container

/-! # Image records

What a host reports about an image, read and written like a container record.
-/

set_option autoImplicit false

namespace HostFleet

structure ImageRecord where
  id : String
  repoTags : List String
  created : Int
  size : Nat
  virtualSize : Nat
  parentId : String
  /-- The address of the host that has the image; empty when nobody said. -/
  host : String
  /-- The fields that are not known, in the order of their names. -/
  extra : List (String × Json)
  deriving Repr

namespace ImageRecord

open ContainerRecord.toJson (textField textsField)

def fieldNames : List String :=
  ["Id", "RepoTags", "Created", "Size", "VirtualSize", "ParentId", "Host"]

/-- The known field that a name stands for; the id may also be called `ID`. -/
def canonical (name : String) : Option String :=
  if name = "ID" then some "Id" else Json.oneOf fieldNames name

/-- Reads a record; around its other fields there may be `depth` brackets. -/
def ofNode? (depth : Nat) : Json.Node → Option ImageRecord
  | .object fields => do
    let p ← Json.Parts.ofFields? canonical fields
    return {
      id := ← p.required "Id" (·.string?)
      repoTags := ← p.optional "RepoTags" [] (·.strings?)
      created := ← p.optional "Created" 0 (·.int64?)
      size := ← p.optional "Size" 0 (·.nat64?)
      virtualSize := ← p.optional "VirtualSize" 0 (·.nat64?)
      parentId := ← p.optional "ParentId" "" (·.string?)
      host := ← p.optional "Host" "" (·.string?)
      extra := ← p.extra? depth }
  | _ => none

/-- The fields of the record; empty texts and lists are left out. -/
def toJson (r : ImageRecord) : Json :=
  .object (("Id", .text r.id) ::
    (textsField "RepoTags" r.repoTags ++
      [("Created", Json.ofInt r.created), ("Size", Json.ofInt r.size),
        ("VirtualSize", Json.ofInt r.virtualSize)] ++
      textField "ParentId" r.parentId ++ textField "Host" r.host ++ r.extra))

end ImageRecord

end HostFleet
