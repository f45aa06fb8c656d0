import HostFleet.Json.Basic
import HostFleet.Text.Split

/-! # Reading JSON numbers

A number is read in two steps: the grammar takes the digits apart, then their value is formed.

* `Numeral.read?`: the parts of a numeral, if the grammar admits it.
* `Numeral.value?`: its value. An integer that fits 64 bits stays exact; every other numeral becomes a
  double, formed from the leading digits that fit 64 bits and one power of ten. A numeral too large
  for a double has no value.
-/

set_option autoImplicit false

namespace HostFleet.Json

/-- The parts of a numeral. -/
structure Numeral where
  negative : Bool
  whole : List Char
  /-- The digits behind the point. -/
  fraction : Option (List Char)
  /-- Is the exponent negative, and its digits. -/
  exponent : Option (Bool × List Char)
  deriving DecidableEq, Repr

namespace Numeral

def isDigit (c : Char) : Bool := '0' ≤ c && c ≤ '9'

def digits (s : List Char) : List Char × List Char := (s.takeWhile isDigit, s.dropWhile isDigit)

/-- One or more digits. -/
def digits1 (s : List Char) : Option (List Char × List Char) :=
  match digits s with
  | ([], _) => none
  | parts => some parts

def readExponent : List Char → Option (Option (Bool × List Char))
  | [] => some none
  | c :: rest =>
    if c == 'e' || c == 'E' then
      let (negative, ds) := match rest with
        | '-' :: more => (true, more)
        | '+' :: more => (false, more)
        | more => (false, more)
      match digits1 ds with
      | some (ds, []) => some (some (negative, ds))
      | _ => none
    else none

/-- The parts of a numeral; a leading zero stands alone. -/
def read? (s : List Char) : Option Numeral := do
  let (negative, s) := match s with
    | '-' :: rest => (true, rest)
    | rest => (false, rest)
  let (whole, s) ← digits1 s
  if whole.length > 1 && whole.head? == some '0' then none
  let (fraction, s) ← match s with
    | '.' :: rest => (digits1 rest).map fun (ds, rest) => (some ds, rest)
    | rest => some (none, rest)
  let exponent ← readExponent s
  return ⟨negative, whole, fraction, exponent⟩

/-! ## Value -/

def digitValue (c : Char) : Nat := c.toNat - 48

/-- The number spelled by decimal digits. -/
def natOf (ds : List Char) : Nat := ds.foldl (fun n c => 10 * n + digitValue c) 0

/-- The greatest significand kept. -/
def limit : Nat := Decimal.maxNat64

/-- Takes digits into the significand until the next would not fit; the rest is handed back. -/
def absorb (n : Nat) : List Char → Nat × List Char
  | [] => (n, [])
  | c :: ds =>
    let next := 10 * n + digitValue c
    if next ≤ limit then absorb next ds else (n, c :: ds)

def doubleOfNat (n : Nat) : Float := (UInt64.ofNat n).toFloat

/-- `f · 10 ^ e`, brought into range by steps of `10 ^ 308`; nothing if it is too large. -/
def scale : Nat → Float → Int → Option Float
  | 0, f, _ => some f
  | fuel + 1, f, e =>
    if e.natAbs ≤ 308 then
      let power := Float.ofScientific 1 false e.natAbs
      if 0 ≤ e then
        let r := f * power
        if r.isInf then none else some r
      else some (f / power)
    else if f == 0 then some f
    else if 0 ≤ e then none
    else scale fuel (f / Float.ofScientific 1 false 308) (e + 308)

/-- The signed double `significand · 10 ^ e`. -/
def double? (negative : Bool) (significand : Nat) (e : Int) : Option Number :=
  (scale 8 (doubleOfNat significand) e).map fun f =>
    .double (if negative then (-f).toBits else f.toBits)

/-- The greatest exponent that is formed exactly. -/
def exponentLimit : Nat := 2147483647

/-- The value of the numeral; nothing if it is too large for a double. -/
def value? (x : Numeral) : Option Number :=
  let (significand, dropped) := absorb 0 x.whole
  match x.fraction, x.exponent, dropped with
  | none, none, [] =>
    if !x.negative then some (.integer significand)
    else if 0 < significand && significand ≤ 9223372036854775808 then some (.integer (-(significand : Int)))
    else double? true significand 0
  | fraction, exponent, dropped =>
    let ds := fraction.getD []
    let (full, ignored) := absorb significand ds
    let shift : Int := (dropped.length : Int) - ((ds.length : Int) - ignored.length)
    match exponent with
    | none => double? x.negative full shift
    | some (negative, es) =>
      let e := natOf es
      if e > exponentLimit then
        if full ≠ 0 && !negative then none else double? x.negative 0 0
      else double? x.negative full (if negative then shift - e else shift + e)

end Numeral

end HostFleet.Json
