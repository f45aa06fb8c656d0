import HostFleet.Json.Number

/-! # Integers in decimal digits

* `Decimal.natural?`: one or more digits, and nothing else.
* `Decimal.signed?`, `Decimal.unsigned?`: an optional sign before the digits, and a value in range.
-/

set_option autoImplicit false

namespace HostFleet.Decimal

open Json.Numeral (isDigit natOf)

/-- The value of one or more digits; leading zeros are allowed. -/
def natural? (s : List Char) : Option Nat :=
  if !s.isEmpty && s.all isDigit then some (natOf s) else none

/-- An integer between the bounds, with an optional sign. -/
def signed? (low high : Int) (s : List Char) : Option Int := do
  let n : Int ← match s with
    | '-' :: ds => (natural? ds).map fun n => -(n : Int)
    | '+' :: ds => (natural? ds).map fun n => (n : Int)
    | ds => (natural? ds).map fun n => (n : Int)
  if low ≤ n ∧ n ≤ high then some n else none

/-- A natural number up to a bound, with an optional plus. -/
def unsigned? (high : Nat) (s : List Char) : Option Nat := do
  let n ← match s with
    | '+' :: ds => natural? ds
    | ds => natural? ds
  if n ≤ high then some n else none

/-- The bounds of a status code. -/
def int32? (s : List Char) : Option Int := signed? minInt32 maxInt32 s

def uint32? (s : List Char) : Option Nat := unsigned? maxNat32 s

def uint64? (s : List Char) : Option Nat := unsigned? maxNat64 s

end HostFleet.Decimal
