/-! # Moments and spans

* `Moment`: nanoseconds since the beginning of 1970, before it negative.
* `Span`: a length of time, never negative.
* `Age`: how long ago something was; negative when it is still to come.
-/

set_option autoImplicit false

namespace HostFleet

structure Moment where
  nanos : Int
  deriving DecidableEq, Repr

structure Span where
  nanos : Nat
  deriving DecidableEq, Repr

structure Age where
  nanos : Int
  deriving DecidableEq, Repr

namespace Moment

/-- A whole number of seconds and nanoseconds added to it. -/
def ofParts (seconds : Int) (nanos : Nat) : Moment := ⟨seconds * 1000000000 + nanos⟩

/-- The whole seconds, rounded down. -/
def seconds (m : Moment) : Int := m.nanos.fdiv 1000000000

/-- The milliseconds from `past` to `m`, rounded toward zero. -/
def millisSince (m past : Moment) : Int := (m.nanos - past.nanos).tdiv 1000000

/-- The age that something of the moment `past` has at `m`. -/
def since (m past : Moment) : Age := ⟨m.nanos - past.nanos⟩

end Moment

namespace Span

def ofParts (seconds nanos : Nat) : Span := ⟨seconds * 1000000000 + nanos⟩

def ofSeconds (seconds : Nat) : Span := ofParts seconds 0

def ofDays (days : Nat) : Span := ofSeconds (days * 86400)

def ofMillis (millis : Nat) : Span := ⟨millis * 1000000⟩

/-- The whole milliseconds, rounded down. -/
def millis (s : Span) : Nat := s.nanos / 1000000

end Span

namespace Age

def ofSeconds (seconds : Int) : Age := ⟨seconds * 1000000000⟩

/-- A number is an age in seconds. -/
instance : Coe Int Age := ⟨ofSeconds⟩

instance (n : Nat) : OfNat Age n := ⟨ofSeconds n⟩

/-- Is it more than the span? -/
def exceeds (age : Age) (span : Span) : Bool := (span.nanos : Int) < age.nanos

end Age

end HostFleet
