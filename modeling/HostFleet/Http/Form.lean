import HostFleet.Bytes
import HostFleet.Text.Split

/-! # Form fields

Query strings and forms are lists `name=value` joined by `&`, in which a plus is a space and other
bytes may be written as a percent sign and two hexadecimal digits.

* `Form.parse`: the fields; an escape that is none stays, malformed text gets U+FFFD.
* `Form.get?`: the last value of a name.
* `Form.encode`: writes a value.
-/

set_option autoImplicit false

namespace HostFleet.Http.Form

/-- The value of a hexadecimal digit byte. -/
def hexValue? (b : UInt8) : Option Nat := Bytes.digitOfHex? (Char.ofNat b.toNat)

/-- Resolves the escapes. -/
def percentDecode : Bytes → Bytes
  | 0x25 :: a :: b :: rest =>
    match hexValue? a, hexValue? b with
    | some high, some low => UInt8.ofNat (high * 16 + low) :: percentDecode rest
    | _, _ => 0x25 :: percentDecode (a :: b :: rest)
  | b :: rest => b :: percentDecode rest
  | [] => []
termination_by s => s.length

def decodeValue (s : Bytes) : String :=
  Bytes.lossy (percentDecode (s.map fun b => if b == 0x2B then 0x20 else b))

/-- Name and value of a part; without `=` the value is empty. -/
def field (part : Bytes) : String × String :=
  match Text.cutFirst 0x3D part with
  | some (name, value) => (decodeValue name, decodeValue value)
  | none => (decodeValue part, "")

/-- The fields in order; empty parts are none. -/
def parse (s : Bytes) : List (String × String) :=
  ((Text.fields 0x26 s).filter (!·.isEmpty)).map field

/-- The last value of a name. -/
def get? (fields : List (String × String)) (name : String) : Option String :=
  fields.reverse.lookup name

/-! ## Writing -/

/-- The bytes that stand for themselves. -/
def isPlain (b : UInt8) : Bool :=
  (0x30 ≤ b && b ≤ 0x39) || (0x41 ≤ b && b ≤ 0x5A) || (0x61 ≤ b && b ≤ 0x7A) ||
    b == 0x2A || b == 0x2D || b == 0x2E || b == 0x5F

def upperHex (b : UInt8) : List Char :=
  (Bytes.hexByte b).map Char.toUpper

def encodeByte (b : UInt8) : List Char :=
  if b == 0x20 then ['+'] else if isPlain b then [Char.ofNat b.toNat] else '%' :: upperHex b

/-- The value as it stands in a query. -/
def encode (s : String) : String := String.ofList ((Bytes.ofText s).flatMap encodeByte)

end HostFleet.Http.Form
