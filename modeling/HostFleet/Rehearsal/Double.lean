import HostFleet.Engine.Basic

/-! # A scripted engine

An engine that does nothing and answers from a script.
-/

set_option autoImplicit false

namespace HostFleet.Rehearsal

/-- What each call of an engine comes to: a failure with its message, or success. -/
structure Double where
  /-- The id of what it creates. -/
  id : String
  connect : Option String
  pull : Option String
  create : Option String
  start : Option String
  deriving DecidableEq, Repr

namespace Double

def outcome {α : Type} (failure : Option String) (value : α) : Except Fault α :=
  match failure with
  | some message => .error (.ofEngine message)
  | none => .ok value

/-- The engine that follows the script. -/
def engine (d : Double) : Engine Unit where
  connect := fun _ _ => ((), outcome d.connect ())
  pull := fun _ _ => ((), outcome d.pull ())
  create := fun _ _ => ((), outcome d.create d.id)
  start := fun _ _ _ => ((), outcome d.start ())

end Double

end HostFleet.Rehearsal
