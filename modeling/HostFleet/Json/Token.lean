import HostFleet.Bytes
import HostFleet.Json.Number

/-! # JSON tokens

The bytes of a JSON text are read one at a time by a machine that emits tokens.

* `Token`: a mark, a word, a number or a string. A number too large for a double and a string that is
  no Unicode text are tokens without a value.
* `Lexer.step`: the machine reads a byte; `tokens?` runs it over a text.
-/

set_option autoImplicit false

namespace HostFleet.Json

inductive Token where
  | openObject
  | closeObject
  | openArray
  | closeArray
  | colon
  | comma
  | null
  | bool (b : Bool)
  | number (value : Option Number)
  | string (value : Option String)
  deriving DecidableEq, Repr

/-- Where the machine stands inside a string. -/
inductive StringState where
  /-- An ordinary character is next. -/
  | plain
  /-- Behind a backslash. -/
  | escape
  /-- Inside the four digits of a code unit. -/
  | unit (value : Nat) (missing : Nat)
  deriving DecidableEq, Repr

/-- The string being read. -/
structure StringReading where
  /-- The bytes so far, last first. -/
  bytes : Bytes
  /-- Is it a text so far? -/
  valid : Bool
  /-- The first half of a surrogate pair, when the second has to follow. -/
  high : Option Nat
  state : StringState
  deriving DecidableEq, Repr

inductive Lexer where
  /-- Between tokens. -/
  | idle
  /-- Inside a word, of which some bytes are missing. -/
  | word (missing : Bytes) (token : Token)
  /-- Inside a number; its characters, last first. -/
  | number (chars : List Char)
  | string (s : StringReading)
  deriving DecidableEq, Repr

namespace StringReading

def start : StringReading := ⟨[], true, none, .plain⟩

/-- An ordinary byte or an escape; it ends the wait for a second half. -/
def push (s : StringReading) (bytes : Bytes) : StringReading :=
  { s with bytes := bytes.reverse ++ s.bytes, valid := s.valid && s.high.isNone, high := none,
           state := .plain }

/-- A code unit: half of a pair, or a character. -/
def pushUnit (s : StringReading) (n : Nat) : StringReading :=
  match s.high with
  | some high =>
    if 0xDC00 ≤ n ∧ n ≤ 0xDFFF then
      let c := Char.ofNat (0x10000 + (high - 0xD800) * 0x400 + (n - 0xDC00))
      { s with high := none }.push (Bytes.ofText c.toString)
    else s.push []
  | none =>
    if 0xD800 ≤ n ∧ n ≤ 0xDBFF then { s with high := some n, state := .plain }
    else if 0xDC00 ≤ n ∧ n ≤ 0xDFFF then { s with valid := false, state := .plain }
    else s.push (Bytes.ofText (Char.ofNat n).toString)

/-- The byte that a short escape stands for. -/
def shortEscape (b : UInt8) : Option UInt8 :=
  if b = 0x22 ∨ b = 0x5C ∨ b = 0x2F then some b
  else if b = 0x62 then some 0x08
  else if b = 0x66 then some 0x0C
  else if b = 0x6E then some 0x0A
  else if b = 0x72 then some 0x0D
  else if b = 0x74 then some 0x09
  else none

/-- The text of the finished string. -/
def finish (s : StringReading) : Option String :=
  if s.valid && s.high.isNone then Bytes.text? s.bytes.reverse else none

/-- Reads a byte that does not end the string; controls have to be escaped. -/
def step (s : StringReading) (b : UInt8) : Option StringReading :=
  match s.state with
  | .plain =>
    if b = 0x5C then some { s with state := .escape }
    else if b < 0x20 then none
    else some (s.push [b])
  | .escape =>
    if b = 0x75 then some { s with state := .unit 0 4 }
    else (shortEscape b).map fun c => s.push [c]
  | .unit value missing =>
    (Bytes.digitOfHex? (Char.ofNat b.toNat)).map fun d =>
      let n := 16 * value + d
      if missing = 1 then s.pushUnit n else { s with state := .unit n (missing - 1) }

end StringReading

namespace Lexer

def isNumberByte (b : UInt8) : Bool :=
  (0x30 ≤ b && b ≤ 0x39) || b == 0x2E || b == 0x2D || b == 0x2B || b == 0x65 || b == 0x45

/-- Reads a byte between tokens: the state behind it and the token that it is. -/
def fresh (b : UInt8) : Option (Lexer × Option Token) :=
  if b = 0x20 ∨ b = 0x0A ∨ b = 0x0D ∨ b = 0x09 then some (.idle, none)
  else if b = 0x7B then some (.idle, some .openObject)
  else if b = 0x7D then some (.idle, some .closeObject)
  else if b = 0x5B then some (.idle, some .openArray)
  else if b = 0x5D then some (.idle, some .closeArray)
  else if b = 0x3A then some (.idle, some .colon)
  else if b = 0x2C then some (.idle, some .comma)
  else if b = 0x22 then some (.string .start, none)
  else if b = 0x6E then some (.word [0x75, 0x6C, 0x6C] .null, none)
  else if b = 0x74 then some (.word [0x72, 0x75, 0x65] (.bool true), none)
  else if b = 0x66 then some (.word [0x61, 0x6C, 0x73, 0x65] (.bool false), none)
  else if isNumberByte b then some (.number [Char.ofNat b.toNat], none)
  else none

/-- The token of a finished number. -/
def finishNumber (chars : List Char) : Option Token :=
  (Numeral.read? chars.reverse).map fun x => .number x.value?

/-- The machine with the tokens that it has emitted, last first. -/
structure Run where
  state : Lexer
  tokens : List Token

def Run.fresh (tokens : List Token) (b : UInt8) : Option Run :=
  (Lexer.fresh b).map fun (state, token) => ⟨state, token.toList ++ tokens⟩

/-- The machine reads a byte. -/
def Run.step (r : Run) (b : UInt8) : Option Run :=
  match r.state with
  | .idle => Run.fresh r.tokens b
  | .word [] token => Run.fresh (token :: r.tokens) b
  | .word (c :: missing) token =>
    if b = c then
      if missing.isEmpty then some ⟨.idle, token :: r.tokens⟩
      else some ⟨.word missing token, r.tokens⟩
    else none
  | .number chars =>
    if isNumberByte b then some ⟨.number (Char.ofNat b.toNat :: chars), r.tokens⟩
    else (finishNumber chars).bind fun token => Run.fresh (token :: r.tokens) b
  | .string s =>
    if s.state = .plain ∧ b = 0x22 then some ⟨.idle, .string s.finish :: r.tokens⟩
    else (s.step b).map fun s => ⟨.string s, r.tokens⟩

/-- The tokens at the end of the text, last first. -/
def Run.finish (r : Run) : Option (List Token) :=
  match r.state with
  | .idle => some r.tokens
  | .number chars => (finishNumber chars).map (· :: r.tokens)
  | _ => none

end Lexer

/-- The tokens of a text, if its bytes form tokens throughout. -/
def tokens? (b : Bytes) : Option (List Token) :=
  ((b.foldlM Lexer.Run.step ⟨.idle, []⟩).bind Lexer.Run.finish).map List.reverse

end HostFleet.Json
