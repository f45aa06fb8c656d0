import HostFleet.Decimal.Shortest

/-! # JSON values

* `Json.Number`: an integer of 64 bits, signed or unsigned, or a double-precision number.
* `Json`: a value; the fields of an object that was read stand in increasing order of their names.
* `Json.render`: the compact text of a value, `Json.renderPretty` the indented one.
-/

set_option autoImplicit false

namespace HostFleet

/-- A number: exact while it fits 64 bits, else the bits of a finite double. -/
inductive Json.Number where
  | integer (value : Int)
  | double (bits : UInt64)
  deriving DecidableEq, Repr

/-- A JSON value. -/
inductive Json where
  | null
  | bool (b : Bool)
  | number (n : Json.Number)
  | text (s : String)
  | array (items : List Json)
  | object (fields : List (String × Json))
  deriving Repr, Inhabited

namespace Json

/-- An integer as a value. -/
def ofInt (i : Int) : Json := .number (.integer i)

/-! ## Fields -/

/-- Sets a field, keeping the fields in order; a field of that name is replaced. -/
def setField (name : String) (value : Json) : List (String × Json) → List (String × Json)
  | [] => [(name, value)]
  | (k, v) :: rest =>
    if name < k then (name, value) :: (k, v) :: rest
    else if name = k then (name, value) :: rest
    else (k, v) :: setField name value rest

/-- The fields in order; of a repeated name the last is kept. -/
def sortFields (fields : List (String × Json)) : List (String × Json) :=
  fields.foldl (fun acc (k, v) => setField k v acc) []

/-- The value of a field of an object. -/
def field? (name : String) : Json → Option Json
  | object fields => fields.lookup name
  | _ => none

/-! ## Text -/

/-- A number beyond 64 bits is positional from `0.00001` up to sixteen digits before the point. -/
def numberStyle : Decimal.Style :=
  { leastPlace := -5, greatestPlace := 15, exponentMark := "e+", negativeMark := "e-" }

def Number.chars : Number → List Char
  | integer value => (toString value).toList
  | double bits =>
    match Decimal.Binary.ofBits bits with
    | some b => numberStyle.format b
    | none => ['n', 'u', 'l', 'l']

def hexDigits4 (n : Nat) : List Char :=
  [n / 4096 % 16, n / 256 % 16, n / 16 % 16, n % 16].map fun d =>
    if d < 10 then Char.ofNat (48 + d) else Char.ofNat (87 + d)

/-- Quote, backslash and controls are escaped, all else stands for itself. -/
def escape (c : Char) : List Char :=
  match c with
  | '"' => ['\\', '"']
  | '\\' => ['\\', '\\']
  | '\n' => ['\\', 'n']
  | '\r' => ['\\', 'r']
  | '\t' => ['\\', 't']
  | '\x08' => ['\\', 'b']
  | '\x0c' => ['\\', 'f']
  | c => if c.toNat < 0x20 then '\\' :: 'u' :: hexDigits4 c.toNat else [c]

/-- A quoted text. -/
def stringChars (s : String) : List Char := '"' :: s.toList.flatMap escape ++ ['"']

mutual

/-- The characters of the compact text. -/
def chars : Json → List Char
  | null => ['n', 'u', 'l', 'l']
  | bool true => ['t', 'r', 'u', 'e']
  | bool false => ['f', 'a', 'l', 's', 'e']
  | number n => n.chars
  | text s => stringChars s
  | array [] => ['[', ']']
  | array (item :: items) => '[' :: chars item ++ itemsChars items ++ [']']
  | object [] => ['{', '}']
  | object ((name, value) :: fields) =>
    '{' :: stringChars name ++ ':' :: chars value ++ fieldsChars fields ++ ['}']

/-- The items after the first, each behind a comma. -/
def itemsChars : List Json → List Char
  | [] => []
  | item :: items => ',' :: chars item ++ itemsChars items

/-- The fields after the first, each behind a comma. -/
def fieldsChars : List (String × Json) → List Char
  | [] => []
  | (name, value) :: fields =>
    ',' :: stringChars name ++ ':' :: chars value ++ fieldsChars fields

end

/-- The compact text. -/
def render (j : Json) : String := String.ofList j.chars

/-- A new line and the indentation of the given depth. -/
def newline (depth : Nat) : List Char := '\n' :: List.replicate (2 * depth) ' '

mutual

/-- The characters of the text with one item or field a line, two blanks deeper a level. -/
def prettyChars (depth : Nat) : Json → List Char
  | array (item :: items) =>
    '[' :: newline (depth + 1) ++ prettyChars (depth + 1) item ++
      prettyItems (depth + 1) items ++ newline depth ++ [']']
  | object ((name, value) :: fields) =>
    '{' :: newline (depth + 1) ++ stringChars name ++ ':' :: ' ' :: prettyChars (depth + 1) value ++
      prettyFields (depth + 1) fields ++ newline depth ++ ['}']
  | null => chars null
  | bool b => chars (bool b)
  | number n => n.chars
  | text s => stringChars s
  | array [] => ['[', ']']
  | object [] => ['{', '}']

def prettyItems (depth : Nat) : List Json → List Char
  | [] => []
  | item :: items => ',' :: newline depth ++ prettyChars depth item ++ prettyItems depth items

def prettyFields (depth : Nat) : List (String × Json) → List Char
  | [] => []
  | (name, value) :: fields =>
    ',' :: newline depth ++ stringChars name ++ ':' :: ' ' :: prettyChars depth value ++
      prettyFields depth fields

end

/-- The indented text. -/
def renderPretty (j : Json) : String := String.ofList (prettyChars 0 j)

end Json

end HostFleet
