import HostFleet.Http.Headers

/-! # Reading a head

The lines in front of the body of a message. A line ends in a line feed, with or without a carriage
return before it.

* `Reading`: what reading comes to when only the first bytes of a message may be there.
* `emptyLines`, `word`, `version`, `lineEnd`: the parts of a first line.
* `fields`: the header lines up to the empty one.
-/

set_option autoImplicit false

namespace HostFleet.Http

/-- Why a message is refused. -/
inductive Flaw where
  | malformed
  /-- The target is too long. -/
  | longTarget
  /-- There are too many headers, or more is announced than can be counted. -/
  | tooLarge
  deriving DecidableEq, Repr

/-- What reading from the front of some bytes comes to. -/
inductive Reading (α : Type) where
  /-- The bytes end before it is read. -/
  | partly
  | flawed (flaw : Flaw)
  | whole (value : α) (rest : Bytes)

namespace Reading

variable {α β : Type}

/-- Reads on behind what was read. -/
def andThen (r : Reading α) (next : α → Bytes → Reading β) : Reading β :=
  match r with
  | partly => partly
  | flawed flaw => flawed flaw
  | whole value rest => next value rest

end Reading

namespace Head

/-! ## First lines -/

/-- Reads the end of a line. -/
def lineEnd : Bytes → Reading Unit
  | [] | [0x0D] => .partly
  | 0x0D :: 0x0A :: rest | 0x0A :: rest => .whole () rest
  | _ => .flawed .malformed

/-- Skips empty lines in front of a message. -/
def emptyLines : Bytes → Reading Unit
  | [] | [0x0D] => .partly
  | 0x0D :: 0x0A :: rest | 0x0A :: rest => emptyLines rest
  | 0x0D :: _ => .flawed .malformed
  | bytes => .whole () bytes

/-- Reads what has only the given bytes, at least one, up to the byte that ends it. -/
def word (allowed : UInt8 → Bool) (ending : UInt8) (bytes : Bytes) : Reading Bytes :=
  match bytes.takeWhile allowed, bytes.dropWhile allowed with
  | _, [] => .partly
  | [], _ => .flawed .malformed
  | value, b :: rest => if b == ending then .whole value rest else .flawed .malformed

/-- May the byte stand in a method or a header name? -/
def isTokenByte (b : UInt8) : Bool :=
  (0x30 ≤ b && b ≤ 0x39) || (0x41 ≤ b && b ≤ 0x5A) || (0x61 ≤ b && b ≤ 0x7A) ||
    (Bytes.ofText "!#$%&'*+-.^_`|~").contains b

/-- Reads a version, `HTTP/1.0` or `HTTP/1.1`; is it the later one? -/
def isLater (bytes : Bytes) : Reading Bool :=
  let name := bytes.take 8
  if name.length < 8 then
    if (name.take 7).isPrefixOf (Bytes.ofText "HTTP/1.") then .partly else .flawed .malformed
  else if name == Bytes.ofText "HTTP/1.1" then .whole true (bytes.drop 8)
  else if name == Bytes.ofText "HTTP/1.0" then .whole false (bytes.drop 8)
  else .flawed .malformed

/-! ## Header lines -/

/-- May the byte stand in the value of a header? -/
def isValueByte (b : UInt8) : Bool := b == 0x09 || (0x20 ≤ b && b != 0x7F)

def isSpace (b : UInt8) : Bool := b == 0x20 || b == 0x09

/-- The bytes without blanks and tabs around them. -/
def trimSpaces (bytes : Bytes) : Bytes :=
  (((bytes.dropWhile isSpace).reverse).dropWhile isSpace).reverse

/-- The name of a header in lowercase letters. -/
def nameOf (bytes : Bytes) : String :=
  String.ofList (bytes.map fun b => (Char.ofNat b.toNat).toLower)

/-- The longest name of a header, in bytes. -/
def maxName : Nat := 65535

/-- Reads one header line: the colon stands right behind the name. -/
def field (bytes : Bytes) : Reading (String × Bytes) :=
  (word isTokenByte 0x3A bytes).andThen fun name bytes =>
    (lineEnd (bytes.dropWhile isValueByte)).andThen fun _ rest =>
      if maxName < name.length then .flawed .tooLarge
      else .whole (nameOf name, trimSpaces (bytes.takeWhile isValueByte)) rest

/-- Reads header lines, at most `limit`, up to the empty line. -/
def fields (limit : Nat) (bytes : Bytes) : Reading Headers :=
  match bytes with
  | [] => .partly
  | b :: _ =>
    if b == 0x0D || b == 0x0A then (lineEnd bytes).andThen fun _ rest => .whole [] rest
    else (field bytes).andThen fun line rest =>
      match limit with
      | 0 => .flawed .tooLarge
      | limit + 1 => (fields limit rest).andThen fun more rest => .whole (line :: more) rest

/-- The most header lines of a message. -/
def maxFields : Nat := 100

end Head

end HostFleet.Http
