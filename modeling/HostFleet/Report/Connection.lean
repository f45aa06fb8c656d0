import HostFleet.Report.Change
import HostFleet.Report.Frame

/-! # Report connections

* `Report.serve`: what a controller does with the bytes of a connection: every frame is handled and
  acknowledged by one byte, 1 when it was taken and 0 when it was refused.
* `Report.Client`: the other side, which sends payloads and waits for each acknowledgement.
-/

set_option autoImplicit false

namespace HostFleet.Report

/-- Handles one frame; was it taken? -/
def acknowledge (peer : Option Ip) (r : Registry) (payload : Bytes) : Registry × Bool :=
  let (r, result) := handlePayload r peer payload
  (r, result.isOk)

/-- Handles frames one after another. -/
def acknowledgeAll (peer : Option Ip) (r : Registry) : List Bytes → Registry × List Bool
  | [] => (r, [])
  | payload :: payloads =>
    let (r, ack) := acknowledge peer r payload
    let (r, acks) := acknowledgeAll peer r payloads
    (r, ack :: acks)

/-- Serves a connection until its bytes end. -/
def serve (r : Registry) (peer : Option Ip) (stream : Bytes) : Registry × List Bool :=
  acknowledgeAll peer r (Frame.readAll stream).1

/-- The byte of an acknowledgement. -/
def ackByte (ack : Bool) : UInt8 := if ack then 1 else 0

namespace Client

/-- What a client writes for some payloads; one that does not fit a frame is not written. -/
def written (payloads : List Bytes) : Bytes :=
  payloads.flatMap fun payload =>
    match Frame.encode? payload with
    | .ok frame => frame
    | .error _ => []

/-- The result of each call: every written frame gets the next acknowledgement. -/
def results : List Bytes → List Bool → List (Except Fault Bool)
  | [], _ => []
  | payload :: payloads, acks =>
    match Frame.encode? payload, acks with
    | .error fault, acks => .error fault :: results payloads acks
    | .ok _, ack :: acks => .ok ack :: results payloads acks
    | .ok _, [] => .error (.io "early eof") :: results payloads []

/-- A client at `peer` sends payloads on one connection. -/
def converse (r : Registry) (peer : Option Ip) (payloads : List Bytes) :
    Registry × List (Except Fault Bool) :=
  let (r, acks) := serve r peer (written payloads)
  (r, results payloads acks)

/-- The payload of a report. -/
def payload (command : ReportCommand) (data : Bytes) : Bytes :=
  Envelope.join data command.wireName

end Client

end HostFleet.Report
