import HostFleet.Bytes
import HostFleet.Fault

/-! # Frames

A report travels in a frame: two bytes of length, the high one first, and the payload.

* `Frame.encode?`: writes a frame; a payload of more than 65535 bytes does not fit.
* `Frame.read`: takes one frame off a stream that ends where the bytes end.
* `Frame.readAll`: all frames, and how the stream ends. It is closed when fewer than two bytes are left,
  and cut short when a payload is not complete.
-/

set_option autoImplicit false

namespace HostFleet.Frame

/-- The longest payload. -/
def maxPayload : Nat := 65535

/-- The frame of a payload. -/
def encode? (payload : Bytes) : Except Fault Bytes :=
  if payload.length ≤ maxPayload then
    .ok (UInt8.ofNat (payload.length / 256) :: UInt8.ofNat payload.length :: payload)
  else .error (.frameTooLarge payload.length)

/-- What is found at the start of a stream. -/
inductive Found where
  /-- The stream ends before a length is complete. -/
  | closed
  /-- The stream ends inside a payload. -/
  | cut
  | frame (payload rest : Bytes)
  deriving DecidableEq, Repr

/-- The payload's length. -/
def size (high low : UInt8) : Nat := high.toNat * 256 + low.toNat

/-- Takes one frame off the stream. -/
def read : Bytes → Found
  | high :: low :: rest =>
    if rest.length < size high low then .cut
    else .frame (rest.take (size high low)) (rest.drop (size high low))
  | _ => .closed

theorem length_rest_lt {stream payload rest : Bytes} (h : read stream = .frame payload rest) :
    rest.length < stream.length := by
  unfold read at h
  split at h
  · split at h
    · cases h
    · cases h
      simp only [List.length_drop, List.length_cons]
      omega
  · cases h

/-- How a stream ends. -/
inductive End where
  | closed
  | cut
  deriving DecidableEq, Repr

/-- The fault that ends a connection, if it does not close between frames. -/
def End.fault? : End → Option Fault
  | closed => none
  | cut => some (.io "early eof")

/-- All frames of a stream and its end. -/
def readAll (stream : Bytes) : List Bytes × End :=
  match h : read stream with
  | .closed => ([], .closed)
  | .cut => ([], .cut)
  | .frame payload rest =>
    have := length_rest_lt h
    let (payloads, ending) := readAll rest
    (payload :: payloads, ending)
termination_by stream.length

end HostFleet.Frame
