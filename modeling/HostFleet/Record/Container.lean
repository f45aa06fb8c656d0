import HostFleet.Json.Parts

/-! # Container records

What a host reports about a container. Fields that this program does not know are kept and written
back behind the known ones, in the order of their names.
-/

set_option autoImplicit false

namespace HostFleet

structure ContainerRecord where
  id : String
  image : String
  command : String
  created : Int
  status : String
  names : List String
  /-- The address of the host that has the container; empty when nobody said. -/
  host : String
  /-- The fields that are not known, in the order of their names. -/
  extra : List (String × Json)
  deriving Repr

namespace ContainerRecord

def fieldNames : List String := ["Id", "Image", "Command", "Created", "Status", "Names", "Host"]

/-- The known field that a name stands for; the id may also be called `ID`. -/
def canonical (name : String) : Option String :=
  if name = "ID" then some "Id" else Json.oneOf fieldNames name

/-- Reads a record; around its other fields there may be `depth` brackets. -/
def ofNode? (depth : Nat) : Json.Node → Option ContainerRecord
  | .object fields => do
    let p ← Json.Parts.ofFields? canonical fields
    return {
      id := ← p.required "Id" (·.string?)
      image := ← p.optional "Image" "" (·.string?)
      command := ← p.optional "Command" "" (·.string?)
      created := ← p.optional "Created" 0 (·.int64?)
      status := ← p.optional "Status" "" (·.string?)
      names := ← p.optional "Names" [] (·.strings?)
      host := ← p.optional "Host" "" (·.string?)
      extra := ← p.extra? depth }
  | _ => none

/-- The fields of the record; empty texts and lists are left out. -/
def toJson (r : ContainerRecord) : Json :=
  .object (("Id", .text r.id) ::
    (textField "Image" r.image ++ textField "Command" r.command ++
      [("Created", Json.ofInt r.created)] ++ textField "Status" r.status ++
      textsField "Names" r.names ++ textField "Host" r.host ++ r.extra))
where
  textField (name text : String) : List (String × Json) :=
    if text.isEmpty then [] else [(name, .text text)]
  textsField (name : String) (texts : List String) : List (String × Json) :=
    if texts.isEmpty then [] else [(name, .array (texts.map .text))]

end ContainerRecord

end HostFleet
