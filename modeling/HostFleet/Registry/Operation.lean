import HostFleet.Registry.Basic

/-! # Runs of registry operations

Everything that changes a registry, as data; a run is a list of operations applied one after another.
-/

set_option autoImplicit false

namespace HostFleet.Registry

inductive Operation where
  | add (e : Endpoint)
  | refresh (address : String) (now : Moment)
  | heartbeat (address hostname : String) (role : Role) (status : Int) (now : Moment)
  | evict (now : Moment) (maxAge : Span)
  | select
  | registerContainer (id : String) (record : ContainerRecord)
  | unregisterContainer (id : String)
  | registerImage (id : String) (record : ImageRecord)
  | unregisterImage (id : String)

/-- The registry after an operation. -/
def apply (r : Registry) : Operation → Registry
  | .add e => r.addEndpoint e
  | .refresh address now => r.refresh address now
  | .heartbeat address hostname role status now =>
    (r.recordHeartbeat address hostname role status now).1
  | .evict now maxAge => (r.evict now maxAge).1
  | .select => r.selectHost.1
  | .registerContainer id record => r.registerContainer id record
  | .unregisterContainer id => r.unregisterContainer id
  | .registerImage id record => r.registerImage id record
  | .unregisterImage id => r.unregisterImage id

/-- The registry after a run. -/
def run (r : Registry) (ops : List Operation) : Registry := ops.foldl apply r

end HostFleet.Registry
