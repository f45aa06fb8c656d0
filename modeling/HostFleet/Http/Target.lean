import HostFleet.Bytes
import HostFleet.Text.Split

/-! # Request targets

What a request asks for: a path with a query, a whole address with scheme and authority, or an authority
alone.

* `Target.parse?`: reads a target in any of the three forms.
* `Target.route`: the path that is routed; `Target.pathAndQuery`: what is passed on; `Target.text`: the
  whole target.
-/

set_option autoImplicit false

namespace HostFleet.Http

/-- A target. With a scheme or without authority it has a path, which may be empty. -/
structure Target where
  scheme : Option String
  authority : Option String
  rawPath : String
  query : Option String
  deriving DecidableEq, Repr

namespace Target

/-! ## Path and query -/

/-- May the character stand in a path? -/
def isPathChar (c : Char) : Bool :=
  let n := c.toNat
  n == 0x21 || n == 0x22 || (0x24 ≤ n && n ≤ 0x3B) || n == 0x3D || (0x40 ≤ n && n ≤ 0x5F) ||
    (0x61 ≤ n && n ≤ 0x7E) || 0x80 ≤ n

/-- May the character stand in a query? -/
def isQueryChar (c : Char) : Bool :=
  let n := c.toNat
  n == 0x21 || (0x24 ≤ n && n ≤ 0x3B) || n == 0x3D || (0x3F ≤ n && n ≤ 0x7E) || 0x80 ≤ n

/-- Path and query of a text whose fragment is dropped. -/
def readParts (s : List Char) : Option (String × Option String) :=
  let s := s.takeWhile (· != '#')
  match Text.cutFirst '?' s with
  | none => if s.all isPathChar then some (String.ofList s, none) else none
  | some (path, query) =>
    if path.all isPathChar && query.all isQueryChar then
      some (String.ofList path, some (String.ofList query))
    else none

/-! ## Authorities -/

/-- May the character stand in an authority? A percent sign may stand in some places only. -/
def isAuthorityChar (c : Char) : Bool := c.isAlphanum || "!$&'()*+,-.:;=@[]_~".toList.contains c

/-- What has been seen of an authority. -/
structure Seen where
  /-- The colons since the last `@` or closing bracket. -/
  colons : Nat
  opened : Bool
  closed : Bool
  /-- A percent sign since the last `@` or closing bracket. -/
  percent : Bool

/-- The most colons from one `@` or closing bracket to the next. -/
def maxColons : Nat := 8

/-- Reads one character of an authority. -/
def Seen.next (s : Seen) (c : Char) : Option Seen :=
  match c with
  | ':' => if maxColons ≤ s.colons then none else some { s with colons := s.colons + 1 }
  | '[' => if s.percent || s.opened then none else some { s with opened := true }
  | ']' =>
    if !s.opened || s.closed then none
    else some { s with closed := true, colons := 0, percent := false }
  | '@' => some { s with colons := 0, percent := false }
  | '%' => some { s with percent := true }
  | c => if isAuthorityChar c then some s else none

/-- Brackets come in pairs, one colon stands before a port, and something follows the user. -/
def isAuthority (s : List Char) : Bool :=
  match s.foldlM Seen.next ⟨0, false, false, false⟩ with
  | some seen =>
    seen.opened == seen.closed && seen.colons ≤ 1 && !seen.percent && s.getLast? != some '@'
  | none => false

/-! ## Schemes -/

def isSchemeChar (c : Char) : Bool :=
  c.isAlphanum || c == '+' || c == '-' || c == '.'

/-- The longest scheme. -/
def maxScheme : Nat := 64

/-- The scheme in front of a text, and what follows its colon and two slashes. -/
def cutScheme? (s : List Char) : Option (List Char × List Char) :=
  (Text.cutAt [':', '/', '/'] s).filter fun (scheme, _) => scheme.all isSchemeChar

/-- The schemes of the web in lowercase letters, any other as it is written. -/
def schemeName (scheme : List Char) : String :=
  let lower := String.ofList (scheme.map Char.toLower)
  if lower == "http" || lower == "https" then lower else String.ofList scheme

/-- The target of a text that does not begin with a slash. -/
def full? (s : List Char) : Option Target :=
  match cutScheme? s with
  | none =>
    if !s.isEmpty && isAuthority s then some ⟨none, some (String.ofList s), "", none⟩ else none
  | some (scheme, rest) =>
    let isEnd := fun c : Char => c == '/' || c == '?' || c == '#'
    let authority := rest.takeWhile fun c => !isEnd c
    if maxScheme < scheme.length || authority.isEmpty || !isAuthority authority then none
    else (readParts (rest.dropWhile fun c => !isEnd c)).map fun (path, query) =>
      ⟨some (schemeName scheme), some (String.ofList authority), path, query⟩

/-- The longest target, in bytes. -/
def maxLength : Nat := 65534

/-- The target of a text. -/
def parse? (s : String) : Option Target :=
  if maxLength < s.utf8ByteSize then none
  else match s.toList with
    | ['*'] => some ⟨none, none, "*", none⟩
    | '/' :: rest =>
      (readParts ('/' :: rest)).map fun (path, query) => ⟨none, none, path, query⟩
    | s => full? s

/-! ## Parts -/

/-- Is there nothing but an authority? -/
def isBare (t : Target) : Bool := t.scheme.isNone && t.authority.isSome

/-- The path that is routed: an empty one is the root, but a bare authority has none. -/
def route (t : Target) : String :=
  if !t.rawPath.isEmpty then t.rawPath else if t.isBare then "" else "/"

/-- Path and query as they are passed on. -/
def pathAndQuery (t : Target) : String :=
  match t.query with
  | some query => t.rawPath ++ "?" ++ query
  | none => if t.rawPath.isEmpty then "/" else t.rawPath

/-- The whole target. -/
def text (t : Target) : String :=
  let scheme := match t.scheme with
    | some scheme => scheme ++ "://"
    | none => ""
  let query := match t.query with
    | some query => "?" ++ query
    | none => ""
  scheme ++ t.authority.getD "" ++ t.route ++ query

end Target

end HostFleet.Http
