import HostFleet.Decimal.Binary

/-! # Shortest decimals

The decimal with the fewest digits that reads back as a given double-precision number; among those
the nearest.

* `Decimal.shortest`: its digits and the place of the first of them.
* `Decimal.Style`: where positional notation ends, and how an exponent is written.
-/

set_option autoImplicit false

namespace HostFleet.Decimal

/-- `digits · 10 ^ exponent`. -/
structure Scaled where
  digits : Nat
  exponent : Int
  deriving Repr, DecidableEq

def Scaled.ratio (d : Scaled) : Ratio := .tens d.digits d.exponent

/-- The least `p` of `p, p + 1, …` with `r < 10 ^ p`, looked for in `fuel` steps. -/
def magnitudeFrom (r : Ratio) : Nat → Int → Int
  | 0, p => p
  | fuel + 1, p => if r.lt (.tens 1 p) then p else magnitudeFrom r fuel (p + 1)

/-- The least `p` with `m · 2 ^ e < 10 ^ p`. -/
def Binary.magnitude (b : Binary) : Int :=
  magnitudeFrom b.ratio 4 (((b.mantissa.log2 : Int) + b.exponent) * 30103 / 100000 - 1)

/-- How far `d` is from `r`, as a fraction over a common denominator. -/
def distance (r d : Ratio) : Nat :=
  (r.num * d.den - d.num * r.den) + (d.num * r.den - r.num * d.den)

/-- The neighbours of the number on the grid of multiples of `10 ^ k`: the nearer one that reads
back, a tie going to the even one. -/
def Binary.onGrid (b : Binary) (k : Int) : Option Scaled :=
  let r := b.ratio
  let below := r.num * tenTo (-k).toNat / (r.den * tenTo k.toNat)
  let lower : Scaled := ⟨below, k⟩
  let upper : Scaled := ⟨below + 1, k⟩
  match b.covers lower.ratio, b.covers upper.ratio with
  | true, true =>
    let down := distance r lower.ratio
    let up := distance r upper.ratio
    if down < up then some lower
    else if up < down then some upper
    else if below % 2 = 0 then some lower else some upper
  | true, false => some lower
  | false, true => some upper
  | false, false => none

/-- The first grid, from `10 ^ k` on downwards, that has a point which reads back. -/
def Binary.refine (b : Binary) : Nat → Int → Scaled
  | 0, k => ⟨b.mantissa, k⟩
  | fuel + 1, k => (b.onGrid k).getD (b.refine fuel (k - 1))

/-- The shortest decimal of a number that is not zero. -/
def Binary.shortest (b : Binary) : Scaled := b.refine 18 (b.magnitude - 1)

/-! ## Notation -/

/-- How a number is spelled. -/
structure Style where
  /-- The first digit's places, from the point leftwards, that are written positionally. -/
  leastPlace : Int
  greatestPlace : Int
  /-- What stands before a non-negative exponent. -/
  exponentMark : String
  /-- What stands before the digits of a negative exponent. -/
  negativeMark : String

def digitList (n : Nat) : List Char := Nat.toDigits 10 n

/-- The digits without the zeros at the end. -/
def trimZeros (ds : List Char) : List Char := (ds.reverse.dropWhile (· == '0')).reverse

def zeros (n : Nat) : List Char := List.replicate n '0'

/-- The spelling of `d`, whose first digit has the place `10 ^ place`. -/
def Style.spell (style : Style) (ds : List Char) (place : Int) : List Char :=
  if style.leastPlace ≤ place ∧ place ≤ style.greatestPlace then
    if 0 ≤ place then
      let whole := place.toNat + 1
      let left := (ds ++ zeros (whole - ds.length)).take whole
      let right := ds.drop whole
      left ++ '.' :: (if right.isEmpty then ['0'] else right)
    else '0' :: '.' :: zeros (-place - 1).toNat ++ ds
  else
    let head := match ds with
      | [] => []
      | [d] => [d]
      | d :: more => d :: '.' :: more
    head ++ (if 0 ≤ place then style.exponentMark else style.negativeMark).toList ++
      digitList place.natAbs

/-- The spelling of a finite number. -/
def Style.format (style : Style) (b : Binary) : List Char :=
  let sign := if b.negative then ['-'] else []
  if b.mantissa = 0 then sign ++ ['0', '.', '0']
  else
    let d := b.shortest
    let all := digitList d.digits
    sign ++ style.spell (trimZeros all) (d.exponent + (all.length : Int) - 1)

end HostFleet.Decimal
