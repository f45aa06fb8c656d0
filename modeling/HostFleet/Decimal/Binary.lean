import HostFleet.Decimal.Power

/-! # Binary fractions

A finite double-precision number is `mantissa · 2 ^ exponent` with a sign. `Binary.ofBits` takes the
64 bits apart; `Binary.Interval` is the set of reals that round to the number.
-/

set_option autoImplicit false

namespace HostFleet.Decimal

/-- A finite double-precision number. -/
structure Binary where
  negative : Bool
  mantissa : Nat
  exponent : Int
  /-- Is the next smaller number only half as far away as the next larger one? -/
  narrow : Bool
  deriving Repr, DecidableEq

/-- Sign, mantissa and exponent of the bits; nothing for infinities and for what is no number. -/
def Binary.ofBits (bits : UInt64) : Option Binary :=
  let n := bits.toNat
  let negative := twoTo 63 ≤ n
  let biased : Nat := n / twoTo 52 % twoTo 11
  let fraction : Nat := n % twoTo 52
  if biased = 2047 then none
  else if biased = 0 then some ⟨negative, fraction, -1074, false⟩
  else some ⟨negative, twoTo 52 + fraction, (biased : Int) - 1075, fraction = 0 ∧ 1 < biased⟩

/-- A non-negative fraction `num / den`. -/
structure Ratio where
  num : Nat
  den : Nat

/-- The fraction `n · 2 ^ e`. -/
def Ratio.scaled (n : Nat) (e : Int) : Ratio :=
  ⟨n * twoTo e.toNat, twoTo (-e).toNat⟩

def Ratio.lt (a b : Ratio) : Bool := a.num * b.den < b.num * a.den

def Ratio.le (a b : Ratio) : Bool := a.num * b.den ≤ b.num * a.den

/-- The fraction `d · 10 ^ k`. -/
def Ratio.tens (d : Nat) (k : Int) : Ratio := ⟨d * tenTo k.toNat, tenTo (-k).toNat⟩

def Binary.ratio (b : Binary) : Ratio := .scaled b.mantissa b.exponent

/-- The least real that rounds to the number, included iff the mantissa is even. -/
def Binary.low (b : Binary) : Ratio :=
  .scaled (if b.narrow then 4 * b.mantissa - 1 else 4 * b.mantissa - 2) (b.exponent - 2)

/-- The greatest real that rounds to the number, included iff the mantissa is even. -/
def Binary.high (b : Binary) : Ratio := .scaled (4 * b.mantissa + 2) (b.exponent - 2)

/-- Does the fraction round to the number? -/
def Binary.covers (b : Binary) (r : Ratio) : Bool :=
  if b.mantissa % 2 = 0 then b.low.le r && r.le b.high else b.low.lt r && r.lt b.high

end HostFleet.Decimal
