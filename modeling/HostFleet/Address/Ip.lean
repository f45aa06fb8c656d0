import HostFleet.Bytes
import HostFleet.Decimal.Integer

/-! # IP addresses

* `Ip`: a version 4 or a version 6 address.
* `Ip.read?`: reads the literal of one; `Ip.chars` writes it.
* `SocketAddress.readV4?`: a version 4 address and a port.
-/

set_option autoImplicit false

namespace HostFleet

inductive Ip where
  | v4 (a b c d : UInt8)
  | v6 (groups : Vector UInt16 8)
  deriving DecidableEq, Repr

namespace Ip

open Json.Numeral (isDigit natOf)

/-! ## Reading -/

/-- A byte in decimal digits without leading zeros, at the start of `s`. -/
def octet (s : List Char) : Option (UInt8 × List Char) :=
  let ds := s.takeWhile isDigit
  let n := natOf ds
  if ds.isEmpty || ds.length > 3 || (ds.length > 1 && ds.head? == some '0') || n > 255 then none
  else some (UInt8.ofNat n, s.drop ds.length)

/-- One given character at the start of `s`. -/
def mark (c : Char) : List Char → Option (List Char)
  | [] => none
  | d :: s => if c == d then some s else none

/-- Four octets at the start of `s`. -/
def readV4 (s : List Char) : Option ((UInt8 × UInt8 × UInt8 × UInt8) × List Char) := do
  let (a, s) ← octet s
  let (b, s) ← mark '.' s >>= octet
  let (c, s) ← mark '.' s >>= octet
  let (d, s) ← mark '.' s >>= octet
  return ((a, b, c, d), s)

def isHexDigit (c : Char) : Bool := (Bytes.digitOfHex? c).isSome

/-- A group of one to four hexadecimal digits at the start of `s`. -/
def group (s : List Char) : Option (UInt16 × List Char) :=
  let ds := s.takeWhile isHexDigit
  if ds.isEmpty || ds.length > 4 then none
  else some (UInt16.ofNat (ds.foldl (fun n c => 16 * n + (Bytes.digitOfHex? c).getD 0) 0),
    s.drop ds.length)

/-- What a colon separates from the groups before; the first group has none before it. -/
def separated {α : Type} (first : Bool) (read : List Char → Option (α × List Char))
    (s : List Char) : Option (α × List Char) :=
  if first then read s else mark ':' s >>= read

/-- Up to `room` groups; the last two may be written as a version 4 address. Answers the groups,
whether they end so, and the rest. -/
def readGroups (first : Bool) : Nat → List Char → List UInt16 × Bool × List Char
  | 0, s => ([], false, s)
  | room + 1, s =>
    match (if 0 < room then separated first readV4 s else none) with
    | some ((a, b, c, d), s) =>
      ([a.toUInt16 * 256 + b.toUInt16, c.toUInt16 * 256 + d.toUInt16], true, s)
    | none =>
      match separated first group s with
      | some (g, s) =>
        let (gs, mapped, s) := readGroups false room s
        (g :: gs, mapped, s)
      | none => ([], false, s)

/-- Eight groups from those before and behind a gap. -/
def fill (head tail : List UInt16) : Option (Vector UInt16 8) :=
  let all := head ++ List.replicate (8 - head.length - tail.length) 0 ++ tail
  if h : all.length = 8 then some ⟨all.toArray, by simpa using h⟩ else none

/-- Eight groups, or fewer with a gap, at the start of `s`. -/
def readV6 (s : List Char) : Option (Vector UInt16 8 × List Char) := do
  let (head, mapped, s) := readGroups true 8 s
  if head.length = 8 then return (← fill head [], s)
  if mapped then none
  let s ← mark ':' s >>= mark ':'
  let (tail, _, s) := readGroups true (7 - head.length) s
  return (← fill head tail, s)

/-- The address of a whole literal. -/
def read? (s : List Char) : Option Ip :=
  match readV4 s with
  | some ((a, b, c, d), []) => some (.v4 a b c d)
  | some _ => none
  | none =>
    match readV6 s with
    | some (groups, []) => some (.v6 groups)
    | _ => none

/-! ## Writing -/

def hexGroup (g : UInt16) : List Char := Nat.toDigits 16 g.toNat

def v4Chars (a b c d : UInt8) : List Char :=
  (toString a).toList ++ '.' :: (toString b).toList ++ '.' :: (toString c).toList ++
    '.' :: (toString d).toList

/-- How many zero groups stand at the start. -/
def zeroRun (gs : List UInt16) : Nat := (gs.takeWhile (· == 0)).length

/-- Start and length of the longest run of zero groups, the first of several. -/
def longestRun : Nat → List UInt16 → Nat × Nat
  | _, [] => (0, 0)
  | start, g :: gs =>
    let here := zeroRun (g :: gs)
    let (at', best) := longestRun (start + 1) gs
    if best ≤ here then (start, here) else (at', best)

def joined (gs : List UInt16) : List Char :=
  List.intercalate [':'] (gs.map hexGroup)

/-- The longest run of at least two zero groups is left out; a mapped version 4 address ends in four
octets. -/
def v6Chars (groups : Vector UInt16 8) : List Char :=
  let gs := groups.toList
  if gs.take 6 == [0, 0, 0, 0, 0, 0xFFFF] then
    let octets := (gs.drop 6).flatMap fun g => [(g / 256).toUInt8, (g % 256).toUInt8]
    match octets with
    | [a, b, c, d] => [':', ':', 'f', 'f', 'f', 'f', ':'] ++ v4Chars a b c d
    | _ => []
  else
    let (start, length) := longestRun 0 gs
    if 1 < length then
      joined (gs.take start) ++ ':' :: ':' :: joined (gs.drop (start + length))
    else joined gs

/-- The literal of an address. -/
def chars : Ip → List Char
  | v4 a b c d => v4Chars a b c d
  | v6 groups => v6Chars groups

def render (ip : Ip) : String := String.ofList ip.chars

end Ip

/-! ## Ports -/

/-- A version 4 address with a port. -/
structure SocketAddress where
  a : UInt8
  b : UInt8
  c : UInt8
  d : UInt8
  port : Nat
  deriving DecidableEq, Repr

namespace SocketAddress

/-- A port in decimal digits; leading zeros are allowed. -/
def readPort? (s : List Char) : Option Nat :=
  (Decimal.natural? s).bind fun n => if n ≤ Decimal.maxNat16 then some n else none

/-- A version 4 address, a colon and a port. -/
def readV4? (s : List Char) : Option SocketAddress := do
  let ((a, b, c, d), s) ← Ip.readV4 s
  let port ← Ip.mark ':' s >>= readPort?
  return ⟨a, b, c, d, port⟩

def ip (s : SocketAddress) : Ip := .v4 s.a s.b s.c s.d

def render (s : SocketAddress) : String := s.ip.render ++ ":" ++ toString s.port

/-- Is it one of the group addresses, 224.0.0.0 to 239.255.255.255? -/
def isGroup (s : SocketAddress) : Bool := 224 ≤ s.a && s.a ≤ 239

end SocketAddress

end HostFleet
