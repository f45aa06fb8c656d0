import HostFleet.Bytes
import HostFleet.Json.Number

/-! # TOML scalars

Strings, numbers, dates and words at the start of a text. Each reader answers what it read and the rest.

* `string?`: the four kinds of strings.
* `number?`: integers in four bases, floats, dates and times; only integers keep their value.
-/

set_option autoImplicit false

namespace HostFleet.Toml

/-- A value without parts. Floats, dates and times are told apart from the others only. -/
inductive Scalar where
  | string (s : String)
  | integer (i : Int)
  | boolean (b : Bool)
  | float
  | date
  deriving DecidableEq, Repr

/-- A reader takes something off the start of a text. -/
abbrev Reader (α : Type) := List Char → Option (α × List Char)

def isDigit (c : Char) : Bool := '0' ≤ c && c ≤ '9'

/-- May the character stand in a comment or a string without an escape? -/
def isPlain (c : Char) : Bool := c == '\t' || (0x20 ≤ c.toNat && c.toNat ≠ 0x7F)

def isWhite (c : Char) : Bool := c == ' ' || c == '\t'

def skipWhite (s : List Char) : List Char := s.dropWhile isWhite

/-- A line end, with or without a carriage return. -/
def lineEnd : List Char → Option (List Char)
  | '\n' :: s => some s
  | '\r' :: '\n' :: s => some s
  | _ => none

/-! ## Strings -/

/-- A code point of the given number of hexadecimal digits. -/
def codePoint (digits : Nat) : Reader Char := fun s =>
  let ds := s.take digits
  if ds.length < digits then none
  else
    (ds.foldlM (fun n c => (Bytes.digitOfHex? c).map fun d => 16 * n + d) 0).bind fun n =>
      if n < 0xD800 || (0xE000 ≤ n && n < 0x110000) then some (Char.ofNat n, s.drop digits)
      else none

/-- What follows a backslash. -/
def escape : Reader Char
  | 'b' :: s => some ('\x08', s)
  | 't' :: s => some ('\t', s)
  | 'n' :: s => some ('\n', s)
  | 'f' :: s => some ('\x0c', s)
  | 'r' :: s => some ('\r', s)
  | '"' :: s => some ('"', s)
  | '\\' :: s => some ('\\', s)
  | 'u' :: s => codePoint 4 s
  | 'U' :: s => codePoint 8 s
  | _ => none

/-- The rest of a line string, behind its opening quote; `done` holds its characters, last first. -/
def basic : Nat → List Char → Reader String
  | 0, _, _ => none
  | fuel + 1, done, s =>
    match s with
    | '"' :: rest => some (String.ofList done.reverse, rest)
    | '\\' :: rest =>
      match escape rest with
      | some (c, rest) => basic fuel (c :: done) rest
      | none => none
    | c :: rest => if isPlain c then basic fuel (c :: done) rest else none
    | [] => none

/-- The rest of a raw line string. -/
def literal (s : List Char) : Option (String × List Char) :=
  let body := s.takeWhile (· != '\'')
  match s.dropWhile (· != '\'') with
  | _ :: rest => if body.all isPlain then some (String.ofList body, rest) else none
  | [] => none

/-- How many quotes stand at the start, at most five. -/
def quotes (q : Char) (s : List Char) : Nat := min 5 (s.takeWhile (· == q)).length

/-- Drops white space and line ends. -/
def skipBlank : Nat → List Char → List Char
  | 0, s => s
  | fuel + 1, s =>
    match s with
    | c :: rest =>
      if isWhite c then skipBlank fuel rest
      else match lineEnd (c :: rest) with
        | some rest => skipBlank fuel rest
        | none => c :: rest
    | [] => []

/-- The rest of a string of several lines. A line end is one character; three quotes end the string,
and up to two of the quotes before them belong to it. -/
def multiline (raw : Bool) (q : Char) : Nat → List Char → Reader String
  | 0, _, _ => none
  | fuel + 1, done, s =>
    match lineEnd s with
    | some rest => multiline raw q fuel ('\n' :: done) rest
    | none =>
      match s with
      | [] => none
      | c :: rest =>
        if c == q then
          let n := quotes q s
          if 3 ≤ n then
            some (String.ofList (List.replicate (n - 3) q ++ done).reverse, s.drop n)
          else multiline raw q fuel (q :: done) rest
        else if c == '\\' && !raw then
          match lineEnd (skipWhite rest) with
          | some rest => multiline raw q fuel done (skipBlank rest.length rest)
          | none =>
            match escape rest with
            | some (c, rest) => multiline raw q fuel (c :: done) rest
            | none => none
        else if isPlain c then multiline raw q fuel (c :: done) rest
        else none

/-- The text without a line end at its start. -/
def dropLineEnd (s : List Char) : List Char := (lineEnd s).getD s

def string? : Reader String
  | '"' :: '"' :: '"' :: s =>
    let s := dropLineEnd s
    multiline false '"' (s.length + 1) [] s
  | '\'' :: '\'' :: '\'' :: s =>
    let s := dropLineEnd s
    multiline true '\'' (s.length + 1) [] s
  | '"' :: s => basic (s.length + 1) [] s
  | '\'' :: s => literal s
  | _ => none

/-! ## Numbers -/

/-- One or more digits, between which single underscores may stand. -/
def digitsOf (ok : Char → Bool) : Nat → Reader (List Char)
  | 0, _ => none
  | fuel + 1, s =>
    match s with
    | c :: rest =>
      if ok c then
        let next := match rest with
          | '_' :: more => digitsOf ok fuel more
          | more =>
            match digitsOf ok fuel more with
            | some found => some found
            | none => some ([], more)
        next.map fun (ds, rest) => (c :: ds, rest)
      else none
    | [] => none

def digits (ok : Char → Bool) (s : List Char) : Option (List Char × List Char) :=
  digitsOf ok (s.length + 1) s

def sign : List Char → Bool × List Char
  | '+' :: s => (false, s)
  | '-' :: s => (true, s)
  | s => (false, s)

/-- A decimal integer without leading zeros. -/
def decimal (s : List Char) : Option ((Bool × List Char) × List Char) :=
  let (negative, s) := sign s
  match s with
  | '0' :: rest => some ((negative, ['0']), rest)
  | s => (digits isDigit s).map fun (ds, rest) => ((negative, ds), rest)

def valueOf (base : Nat) (ds : List Char) : Nat :=
  ds.foldl (fun n c => base * n + (Bytes.digitOfHex? c).getD 0) 0

/-- An integer has to fit 64 bits. -/
def fits (i : Int) : Option Scalar :=
  if Decimal.minInt64 ≤ i ∧ i ≤ Decimal.maxInt64 then some (.integer i) else none

def inBase (base : Nat) (s : List Char) : Option (Scalar × List Char) := do
  let ok := fun c => match Bytes.digitOfHex? c with
    | some d => d < base
    | none => false
  let (ds, rest) ← digits ok s
  return (← fits (valueOf base ds), rest)

def integer : Reader Scalar
  | '0' :: 'x' :: s => inBase 16 s
  | '0' :: 'o' :: s => inBase 8 s
  | '0' :: 'b' :: s => inBase 2 s
  | s => do
    let ((negative, ds), rest) ← decimal s
    let n : Int := valueOf 10 ds
    return (← fits (if negative then -n else n), rest)

def startsWith (word : String) (s : List Char) : Bool := word.toList.isPrefixOf s

/-- The exponent of a float, if there is one. -/
def exponent : List Char → Option (Int × List Char)
  | c :: s =>
    if c == 'e' || c == 'E' then
      let (negative, s) := sign s
      (digits isDigit s).map fun (ds, rest) =>
        ((if negative then -(valueOf 10 ds : Int) else valueOf 10 ds), rest)
    else none
  | [] => none

/-- Is `n · 10 ^ e`, with `n` of `count` digits, too large for a double? -/
def overflows (n count : Nat) (e : Int) : Bool :=
  if n == 0 then false
  else if e + count > 400 then true
  else if e + count < 300 then false
  else
    let limit := Decimal.twoTo 1024 - Decimal.twoTo 970
    limit * Decimal.tenTo (-e).toNat ≤ n * Decimal.tenTo e.toNat

/-- A float; one that is too large for a double is refused. -/
def float (s : List Char) : Option (Scalar × List Char) :=
  let (negative, rest) := sign s
  if startsWith "inf" rest || startsWith "nan" rest then some (.float, rest.drop 3)
  else do
    let ((_, whole), rest) ← decimal s
    let (fraction, rest, pointed) ← match rest with
      | '.' :: more => (digits isDigit more).map fun (ds, rest) => (ds, rest, true)
      | rest => some ([], rest, false)
    let (e, rest, scaled) := match exponent rest with
      | some (e, rest) => (e, rest, true)
      | none => (0, rest, false)
    if !pointed && !scaled then none
    let all := whole ++ fraction
    if !negative && overflows (valueOf 10 all) (all.dropWhile (· == '0')).length
        (e - fraction.length) then none
    return (.float, rest)

/-! ## Dates and times -/

/-- A number of exactly so many digits. -/
def fixed (count : Nat) (s : List Char) : Option (Nat × List Char) :=
  let ds := s.take count
  if ds.length == count && ds.all isDigit then some (valueOf 10 ds, s.drop count) else none

def expect (c : Char) : List Char → Option (List Char)
  | d :: s => if c == d then some s else none
  | [] => none

def isLeap (year : Nat) : Bool := year % 4 == 0 && (year % 100 != 0 || year % 400 == 0)

def daysIn (year month : Nat) : Nat :=
  if month == 2 then (if isLeap year then 29 else 28)
  else if [4, 6, 9, 11].contains month then 30 else 31

def fullDate (s : List Char) : Option (List Char) := do
  let (year, s) ← fixed 4 s
  let (month, s) ← expect '-' s >>= fixed 2
  let (day, s) ← expect '-' s >>= fixed 2
  if 1 ≤ month && month ≤ 12 && 1 ≤ day && day ≤ daysIn year month then some s else none

/-- The part of a second behind the point, if there is one. -/
def subsecond (s : List Char) : Option (List Char) :=
  match s with
  | '.' :: rest =>
    let ds := rest.takeWhile isDigit
    if ds.isEmpty then none else some (rest.drop ds.length)
  | s => some s

def partialTime (s : List Char) : Option (List Char) := do
  let (hour, s) ← fixed 2 s
  let (minute, s) ← expect ':' s >>= fixed 2
  let (second, s) ← expect ':' s >>= fixed 2
  if hour ≤ 23 && minute ≤ 59 && second ≤ 60 then subsecond s else none

def offset (s : List Char) : Option (List Char) :=
  match s with
  | c :: rest =>
    if c == 'Z' || c == 'z' then some rest
    else if c == '+' || c == '-' then do
      let (hour, s) ← fixed 2 rest
      let (minute, s) ← expect ':' s >>= fixed 2
      if hour ≤ 23 && minute ≤ 59 then some s else none
    else some s
  | [] => some []

/-- A date, a time, or both with an offset or without. -/
def date (s : List Char) : Option (Scalar × List Char) :=
  match fullDate s with
  | some rest =>
    match rest with
    | c :: more =>
      if c == 'T' || c == 't' then
        (partialTime more).bind offset |>.map fun rest => (.date, rest)
      else if c == ' ' && (fixed 2 more).isSome && ((more.drop 2).head? == some ':') then
        (partialTime more).bind offset |>.map fun rest => (.date, rest)
      else some (.date, rest)
    | [] => some (.date, [])
  | none => (partialTime s).map fun rest => (.date, rest)

/-- Whatever starts with a digit or a sign. -/
def number? (s : List Char) : Option (Scalar × List Char) :=
  match date s with
  | some found => some found
  | none =>
    match float s with
    | some found => some found
    | none => integer s

/-- A word that is a value. -/
def word? (s : List Char) : Option (Scalar × List Char) :=
  if startsWith "true" s then some (.boolean true, s.drop 4)
  else if startsWith "false" s then some (.boolean false, s.drop 5)
  else if startsWith "inf" s || startsWith "nan" s then some (.float, s.drop 3)
  else none

/-- A scalar at the start of the text. -/
def scalar? (s : List Char) : Option (Scalar × List Char) :=
  match s with
  | [] => none
  | c :: _ =>
    if c == '"' || c == '\'' then (string? s).map fun (text, rest) => (.string text, rest)
    else if isDigit c || c == '+' || c == '-' then number? s
    else word? s

end HostFleet.Toml
