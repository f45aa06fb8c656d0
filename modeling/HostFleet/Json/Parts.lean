import HostFleet.Json.Document

/-! # Reading records

A record is read from a document field by field.

* `Node.integer?`, `Node.string?`, `Node.strings?`: single values of a fixed type.
* `Parts.ofFields?`: splits the fields of an object into the known ones, each at most once, and the
  others in their order.
* `Parts.ofItems?`: reads an array as the known fields in their order.
* `Parts.extra?`: the others as kept values.
-/

set_option autoImplicit false

namespace HostFleet.Json

namespace Node

/-- An integer between the bounds. -/
def integer? (low high : Int) : Node → Option Int
  | number (some (.integer i)) => if low ≤ i ∧ i ≤ high then some i else none
  | _ => none

/-- A signed integer of 64 bits. -/
def int64? : Node → Option Int := integer? Decimal.minInt64 Decimal.maxInt64

/-- A natural number of 64 bits. -/
def nat64? (n : Node) : Option Nat := (n.integer? 0 Decimal.maxNat64).map Int.toNat

def string? : Node → Option String
  | string value => value
  | _ => none

def strings? : Node → Option (List String)
  | array items => items.mapM string?
  | _ => none

end Node

/-- The fields of an object, sorted into known and other ones. -/
structure Parts where
  known : List (String × Node)
  /-- The last first. -/
  other : List (String × Node)

namespace Parts

/-- Adds a field; a known one must not be there yet. -/
def add (canonical : String → Option String) (p : Parts) (field : Option String × Node) :
    Option Parts :=
  field.1.bind fun name =>
    match canonical name with
    | some name =>
      if (p.known.lookup name).isSome then none
      else some { p with known := (name, field.2) :: p.known }
    | none => some { p with other := (name, field.2) :: p.other }

/-- The parts of an object's fields; `canonical` names the known fields. -/
def ofFields? (canonical : String → Option String) (fields : List (Option String × Node)) :
    Option Parts :=
  fields.foldlM (add canonical) ⟨[], []⟩

/-- The parts of an array that holds the known fields in order; some may be missing at the end. -/
def ofItems? (names : List String) (items : List Node) : Option Parts :=
  if items.length ≤ names.length then some ⟨names.zip items, []⟩ else none

/-- The value of a field that must be there. -/
def required {α : Type} (p : Parts) (name : String) (read : Node → Option α) : Option α :=
  (p.known.lookup name).bind read

/-- The value of a field that may be missing, but not be of another type. -/
def optional {α : Type} (p : Parts) (name : String) (default : α) (read : Node → Option α) :
    Option α :=
  match p.known.lookup name with
  | some node => read node
  | none => some default

/-- The other fields as values; the last of a name is kept. -/
def extra? (depth : Nat) (p : Parts) : Option (List (String × Json)) :=
  (p.other.reverse.mapM fun (f : String × Node) => (f.2.keep? depth).map fun v => (f.1, v)).map
    sortFields

end Parts

/-- A name of the list stands for itself. -/
def oneOf (names : List String) (name : String) : Option String :=
  if names.contains name then some name else none

end HostFleet.Json
