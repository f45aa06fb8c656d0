import HostFleet.Http.Message
import HostFleet.Registry.Basic

/-! # The monitor

Health and statistics for those who watch over the controller.

* `Monitor.answer`: the answer to a request; it only reads the registry.
-/

set_option autoImplicit false

namespace HostFleet.Monitor

open Http (Request Response)

def serviceName : String := "fleet-controller"

def version : String := "0.3.0"

def health : Json :=
  .object [("status", .text "healthy"), ("service", .text serviceName), ("version", .text version)]

/-- What is shown at a path. -/
def page? (r : Registry) (path : String) : Option Json :=
  if path == "/health" then some health
  else if path == "/stats" then some r.stats.toJson
  else none

/-- The answer to a method that a page does not know. -/
def notAllowed : Response := ⟨405, none, [("allow", Bytes.ofText "GET,HEAD")], [], true, false⟩

def answer (r : Registry) (request : Request) : Response :=
  match page? r request.target.route with
  | none => .notFound
  | some page =>
    if request.method == "GET" then .json 200 page
    else if request.method == "HEAD" then { Response.json 200 page with body := [] }
    else notAllowed

end HostFleet.Monitor
