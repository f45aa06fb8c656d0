import HostFleet.Text.Split

/-! # Route patterns

A pattern is a path, or a path with one place for a name; the name may be any text, slashes included.
-/

set_option autoImplicit false

namespace HostFleet.Route

inductive Pattern where
  | exact (path : List Char)
  /-- A name between `head` and `tail`. -/
  | named (head tail : List Char)
  deriving DecidableEq, Repr

namespace Pattern

/-- The place for the name, `{name}`. -/
def placeholder : List Char := ['\x7b', 'n', 'a', 'm', 'e', '\x7d']

/-- The pattern of a text; only the first place for a name counts. -/
def parse (text : String) : Pattern :=
  match Text.cutAt placeholder text.toList with
  | some (head, tail) => named head tail
  | none => exact text.toList

def isExact : Pattern → Bool
  | exact _ => true
  | named _ _ => false

/-- Does the path match, and by which name? -/
def matches? (path : List Char) : Pattern → Option (Option String)
  | exact p => if path = p then some none else none
  | named head tail =>
    ((Text.dropHead? head path).bind (Text.dropTail? tail)).map fun name =>
      some (String.ofList name)

end Pattern

end HostFleet.Route
