/-! # Roles

What an endpoint is for, and the names it goes by.
-/

set_option autoImplicit false

namespace HostFleet

inductive Role where
  | agentInternal
  | containerRuntimeInternal
  | controllerInternal
  | controllerProxy
  deriving DecidableEq, Repr

namespace Role

def all : List Role :=
  [agentInternal, containerRuntimeInternal, controllerInternal, controllerProxy]

/-- The name in logs and messages. -/
def name : Role → String
  | agentInternal => "agent_internal"
  | containerRuntimeInternal => "container_runtime_internal"
  | controllerInternal => "controller_internal"
  | controllerProxy => "controller_proxy"

/-- The name in JSON. -/
def jsonName : Role → String
  | agentInternal => "AgentInternal"
  | containerRuntimeInternal => "ContainerRuntimeInternal"
  | controllerInternal => "ControllerInternal"
  | controllerProxy => "ControllerProxy"

def ofJsonName? (s : String) : Option Role := all.find? (·.jsonName == s)

end Role

end HostFleet
