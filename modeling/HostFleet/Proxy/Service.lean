import HostFleet.Proxy.Delivery
import HostFleet.Proxy.Dispatch

/-! # The proxy's service

* `serve`: everything that becomes of a request: the answer, the registry after it, and the container
  that is to be made in the background.
-/

set_option autoImplicit false

namespace HostFleet.Proxy

open Http (Hosts Request Response)

/-- What became of a request. -/
structure Served (σ : Type) where
  state : σ
  registry : Registry
  delivery : Delivery
  /-- Work that goes on behind the answer. -/
  order : Option Provision

variable {σ : Type}

/-- Is the body of the request read before anything is answered? -/
def isRead (setup : Setup) (request : Request) : Bool :=
  match setup.routes.resolve? request.method request.target.route with
  | some found => readsBody found.policy request
  | none => false

/-- Serves a request; `later` is what the client sends once protocols are switched. -/
def serve (setup : Setup) (hosts : Hosts σ) (s : σ) (r : Registry) (request : Request)
    (later : Bytes) : Served σ :=
  let read := isRead setup request
  match decide setup r request with
  | (r, .answer response) => ⟨s, r, ⟨response, [], read⟩, none⟩
  | (r, .forward host request) =>
    let (s, delivery) := deliver hosts s host request later
    ⟨s, r, { delivery with read := delivery.read || read }, none⟩
  | (r, .create order) => ⟨s, r, ⟨.json 201 order.accepted.toJson, [], read⟩, some order⟩

end HostFleet.Proxy
