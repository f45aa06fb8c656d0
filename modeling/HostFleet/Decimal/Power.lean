/-! # Powers and bounds

* `twoTo`, `tenTo`: powers of two and ten.
* The least and greatest whole numbers of 16, 32 and 64 bits.
-/

set_option autoImplicit false

namespace HostFleet.Decimal

/-- A power of two. -/
def twoTo (e : Nat) : Nat := Nat.pow 2 e

/-- A power of ten. -/
def tenTo (e : Nat) : Nat := Nat.pow 10 e

def maxNat16 : Nat := 65535

def maxNat32 : Nat := 4294967295

def maxNat64 : Nat := 18446744073709551615

def minInt32 : Int := -2147483648

def maxInt32 : Int := 2147483647

def minInt64 : Int := -9223372036854775808

def maxInt64 : Int := 9223372036854775807

end HostFleet.Decimal
