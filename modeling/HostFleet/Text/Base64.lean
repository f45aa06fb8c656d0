import HostFleet.Bytes

/-! # Base64

Three bytes are written as four characters of an alphabet of 64; the last group is filled with `=`.
-/

set_option autoImplicit false

namespace HostFleet.Text

namespace Base64

def alphabet : List Char :=
  "ABCDEFGHIJKLMNOPQRSTUVWXYZabcdefghijklmnopqrstuvwxyz0123456789+/".toList

/-- The character of six bits. -/
def digit (n : Nat) : Char := (alphabet[n % 64]?).getD '='

/-- The text of some bytes. -/
def encode : Bytes → List Char
  | [] => []
  | [a] =>
    let n := a.toNat * 0x10000
    [digit (n / 0x40000), digit (n / 0x1000), '=', '=']
  | [a, b] =>
    let n := a.toNat * 0x10000 + b.toNat * 0x100
    [digit (n / 0x40000), digit (n / 0x1000), digit (n / 0x40), '=']
  | a :: b :: c :: rest =>
    let n := a.toNat * 0x10000 + b.toNat * 0x100 + c.toNat
    [digit (n / 0x40000), digit (n / 0x1000), digit (n / 0x40), digit n] ++ encode rest

end Base64

end HostFleet.Text
