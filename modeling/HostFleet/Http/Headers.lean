import HostFleet.Bytes
import HostFleet.Decimal.Integer
import HostFleet.Text.Blank
import HostFleet.Text.Split

/-! # HTTP headers

Headers are lines of a lowercase name and a value of bytes; a name may have several lines.
-/

set_option autoImplicit false

namespace HostFleet.Http

abbrev Headers := List (String × Bytes)

namespace Headers

/-- The values of a name, in order. -/
def values (h : Headers) (name : String) : List Bytes :=
  (h.filter fun line => line.1 == name).map (·.2)

/-- The first value of a name. -/
def first? (h : Headers) (name : String) : Option Bytes := h.lookup name

def has (h : Headers) (name : String) : Bool := h.any fun line => line.1 == name

/-- The lines of other names. -/
def without (h : Headers) (names : List String) : Headers :=
  h.filter fun line => !names.contains line.1

/-- Is the byte a visible ASCII character, a space or a tab? -/
def isVisible (b : UInt8) : Bool := (0x20 ≤ b && b < 0x7F) || b == 0x09

/-- A value as text, if it is visible ASCII. -/
def visible? (value : Bytes) : Option (List Char) :=
  if value.all isVisible then some (value.map fun b => Char.ofNat b.toNat) else none

/-- The first value of a name as text. -/
def text? (h : Headers) (name : String) : Option (List Char) := (h.first? name).bind visible?

/-- The headers of one connection, which are not passed on. -/
def hopByHop : List String :=
  ["connection", "keep-alive", "proxy-authenticate", "proxy-authorization", "te", "trailer",
    "transfer-encoding", "upgrade"]

/-- The headers that concern both ends. -/
def endToEnd (h : Headers) : Headers := h.without hopByHop

/-- What all elements of a list are, if it has any and they are the same. -/
def agreed? {α : Type} [BEq α] : List (Option α) → Option α
  | [] => none
  | first :: more => first.filter fun a => more.all (· == some a)

/-- The length of a body in decimal digits. -/
def lengthOf? (digits : List Char) : Option Nat :=
  (Decimal.natural? digits).filter (· ≤ Decimal.maxNat64)

/-- The lengths of a line, which commas separate. -/
def lengths (value : Bytes) : List (Option Nat) :=
  match visible? value with
  | some s => (Text.fields ',' s).map fun part => lengthOf? (Text.trimList part)
  | none => [none]

/-- The announced length of the body: all that is announced must agree on it. -/
def contentLength? (h : Headers) : Option Nat :=
  agreed? ((h.values "content-length").flatMap lengths)

/-- The longest body. -/
def maxLength : Nat := Decimal.maxNat64 - 2

/-- The lines with those of a name brought together at the place of its first. -/
def grouped (h : Headers) : Headers :=
  (h.map (·.1)).eraseDups.flatMap fun name => h.filter fun line => line.1 == name

end Headers

/-! ## Upgrades -/

/-- The protocols to which a connection can be switched. -/
inductive Upgrade where
  | tcp
  | webSocket
  deriving DecidableEq, Repr

namespace Upgrade

def name : Upgrade → String
  | tcp => "tcp"
  | webSocket => "websocket"

/-- Are the texts equal but for the case of ASCII letters? -/
def sameLetters (a b : List Char) : Bool := a.map Char.toLower == b.map Char.toLower

/-- Does a list of tokens name the token, in any case and with white space around it? -/
def namesToken (token : List Char) (value : List Char) : Bool :=
  (Text.fields ',' value).any fun part => sameLetters (Text.trimList part) token

/-- The upgrade that a request asks for by its first `Connection` and `Upgrade` lines. -/
def requested? (h : Headers) : Option Upgrade := do
  let connection ← h.text? "connection"
  if !namesToken "upgrade".toList connection then none
  let upgrade := Text.trimList (← h.text? "upgrade")
  if upgrade == "tcp".toList then some tcp
  else if sameLetters upgrade "websocket".toList then some webSocket
  else none

end Upgrade

/-! ## Codings -/

/-- Are chunks the last of the codings? -/
def Headers.endsInChunked (value : Bytes) : Bool :=
  match visible? value with
  | some s =>
    let last := Text.trimList ((Text.fields ',' s).getLast?.getD [])
    Upgrade.sameLetters last "chunked".toList
  | none => false

end HostFleet.Http
