import HostFleet.Address.Ip
import HostFleet.Domain.Basic
import HostFleet.Http.Form
import HostFleet.Http.Target

/-! # URLs

The URL of an HTTP call, read the way browsers read it: tabs and line ends are dropped, a backslash
is a slash, dot segments are resolved, and characters that may not stand are escaped.

* `Url.parse?`: an absolute URL; `Url.lead`: what a reference inside a document leads to.
* `Url.target`: what is asked for, `Url.authorityText`: whom; `Url.place`: where to connect to.
-/

set_option autoImplicit false

namespace HostFleet.Http

inductive Url.Host where
  | domain (name : List Char)
  | ip (address : Ip)
  deriving DecidableEq, Repr

structure Url where
  scheme : String
  /-- User name and password, escaped. -/
  username : List Char
  password : List Char
  host : Url.Host
  /-- A port other than that of the scheme. -/
  port : Option Nat
  /-- Escaped; begins with a slash. -/
  path : List Char
  query : Option (List Char)
  deriving DecidableEq, Repr

/-- Where a connection is asked for: at a host and a port in one text, or at those of a URL. The host may be
an address or a name. -/
inductive Place where
  | text (hostAndPort : String)
  | origin (scheme : String) (host : Url.Host) (port : Nat)
  deriving DecidableEq, Repr

namespace Url

/-! ## Escapes -/

/-- Controls, and everything that is not ASCII. -/
def isControl (c : Char) : Bool := c.toNat < 0x20 || 0x7E < c.toNat

def escapedInPath (c : Char) : Bool := isControl c || " \"<>`#?\x7b\x7d".toList.contains c

def escapedInQuery (c : Char) : Bool := isControl c || " \"<>#'".toList.contains c

def escapedInUser (c : Char) : Bool := escapedInPath c || "/:;=@[]^|\\".toList.contains c

/-- The bytes of the character, each as a percent sign and two digits. -/
def percentEncode (c : Char) : List Char :=
  (Bytes.ofText c.toString).flatMap fun b => '%' :: Form.upperHex b

def escape (escaped : Char → Bool) (s : List Char) : List Char :=
  s.flatMap fun c => if escaped c then percentEncode c else [c]

/-! ## Hosts -/

/-- A number of an address: hexadecimal, octal or decimal. -/
def ipNumber? (s : List Char) : Option Nat :=
  let value (base : Nat) (ds : List Char) : Option Nat :=
    ds.foldlM (fun n c => (Bytes.digitOfHex? c).bind fun d =>
      if d < base then some (base * n + d) else none) 0
  match s with
  | [] => none
  | '0' :: 'x' :: ds => value 16 ds
  | '0' :: 'X' :: ds => value 16 ds
  | '0' :: d :: ds => value 8 (d :: ds)
  | ds => value 10 ds

def dotted (name : List Char) : List (List Char) :=
  match (Text.fields '.' name).reverse with
  | [] :: more@(_ :: _) => more.reverse
  | _ => Text.fields '.' name

/-- Has the last part of the name the form of a number? -/
def endsInNumber (name : List Char) : Bool :=
  match (dotted name).getLast? with
  | some part => (!part.isEmpty && part.all Json.Numeral.isDigit) || (ipNumber? part).isSome
  | none => false

/-- The address of one to four numbers, of which the last fills what is left. -/
def ipv4? (name : List Char) : Option Ip := do
  let numbers ← (dotted name).mapM ipNumber?
  let count := numbers.length
  if 4 < count then none
  let last ← numbers.getLast?
  let head := numbers.dropLast
  if head.any (255 < ·) || Nat.pow 256 (5 - count) ≤ last then none
  let high := head.zipIdx.foldl (fun sum (n, i) => sum + n * Nat.pow 256 (3 - i)) 0
  let n := high + last
  return .v4 (UInt8.ofNat (n / 0x1000000)) (UInt8.ofNat (n / 0x10000)) (UInt8.ofNat (n / 0x100))
    (UInt8.ofNat n)

def forbiddenInHost (c : Char) : Bool :=
  c.toNat ≤ 0x20 || c.toNat == 0x7F || "#/:<>?@[\\]^|%".toList.contains c

/-- The host of a literal or a name. -/
def host? (s : List Char) : Option Host :=
  match s with
  | '[' :: rest =>
    match (rest.dropLast, rest.getLast?) with
    | (inner, some ']') =>
      match Ip.readV6 inner with
      | some (groups, []) => some (.ip (.v6 groups))
      | _ => none
    | _ => none
  | s => do
    let decoded ← Bytes.text? (Form.percentDecode (Bytes.ofText (String.ofList s)))
    let name ← Domain.ascii? decoded.toList
    if name.isEmpty || name.any forbiddenInHost then none
    else if endsInNumber name then (ipv4? name).map .ip
    else some (.domain name)

/-! ## Paths -/

def isSlash (c : Char) : Bool := c == '/' || c == '\\'

/-- The part with every escaped dot resolved. -/
def dots (segment : List Char) : List Char :=
  match segment with
  | '%' :: '2' :: e :: rest =>
    if e == 'e' || e == 'E' then '.' :: dots rest else '%' :: dots ('2' :: e :: rest)
  | c :: rest => c :: dots rest
  | [] => []
termination_by segment.length

/-- Is the segment the letter of a drive? -/
def isDrive (segment : List Char) : Bool :=
  match segment with
  | [c, d] => c.isAlpha && (d == ':' || d == '|')
  | _ => false

/-- The segments without the last one, which stands first; the letter of a drive stays. -/
def up : List (List Char) → List (List Char)
  | [] => []
  | last :: done => if isDrive last then last :: done else done

/-- Puts segments behind the ones before, last first; one dot stays, two go up. -/
def resolve (done : List (List Char)) : List (List Char) → List (List Char)
  | [] => done
  | [segment] =>
    if dots segment == ['.'] then [] :: done
    else if dots segment == ['.', '.'] then [] :: up done
    else escape escapedInPath segment :: done
  | segment :: more =>
    if dots segment == ['.'] then resolve done more
    else if dots segment == ['.', '.'] then resolve (up done) more
    else resolve (escape escapedInPath segment :: done) more

/-- Slashes and backslashes cut a path. -/
def segments (s : List Char) : List (List Char) :=
  Text.fields '/' (s.map fun c => if c == '\\' then '/' else c)

/-- The path of resolved segments, which are given last first. -/
def pathOf (done : List (List Char)) : List Char :=
  done.reverse.flatMap fun segment => '/' :: segment

/-- Path and query of what follows the host. -/
def pathAndQuery (done : List (List Char)) (s : List Char) : List Char × Option (List Char) :=
  let s := s.takeWhile (· != '#')
  let (path, query) := match Text.cutFirst '?' s with
    | some (path, query) => (path, some (escape escapedInQuery query))
    | none => (s, none)
  let path := match path with
    | [] => []
    | c :: rest => if isSlash c then rest else c :: rest
  (pathOf (resolve done (segments path)), query)

/-! ## Reading -/

def defaultPort (scheme : String) : Nat := if scheme == "https" then 443 else 80

/-- The port behind a colon; none stands for that of the scheme. -/
def port? (scheme : String) (s : List Char) : Option (Option Nat) :=
  match s with
  | [] => some none
  | s => (SocketAddress.readPort? s).map fun n => if n == defaultPort scheme then none else some n

/-- The host before a port; a colon inside brackets belongs to it. -/
def bracket (s : List Char) : List Char :=
  match s with
  | '[' :: _ => s.takeWhile (· != ']') ++ (if s.contains ']' then [']'] else [])
  | _ => s.takeWhile (· != ':')

/-- Host and port. -/
def hostAndPort? (scheme : String) (s : List Char) : Option (Host × Option Nat) := do
  let bracketed := bracket s
  let host ← host? bracketed
  match s.drop bracketed.length with
  | [] => return (host, none)
  | ':' :: port => return (host, ← port? scheme port)
  | _ => none

/-- The URL of what follows the two slashes. -/
def authority? (scheme : String) (s : List Char) : Option Url := do
  let isEnd := fun c : Char => isSlash c || c == '?' || c == '#'
  let whole := s.takeWhile fun c => !isEnd c
  let (user, rest) := match Text.cutLast '@' whole with
    | some (user, rest) => (user, rest)
    | none => ([], whole)
  let (name, word) := match Text.cutFirst ':' user with
    | some (name, word) => (name, word)
    | none => (user, [])
  let (host, port) ← hostAndPort? scheme rest
  let (path, query) := pathAndQuery [] (s.dropWhile fun c => !isEnd c)
  return ⟨scheme, escape escapedInUser name, escape escapedInUser word, host, port, path, query⟩

/-- The text without what is not read: blanks and controls around it, tabs and line ends in it. -/
def clean (s : List Char) : List Char :=
  let isOuter := fun c : Char => c.toNat ≤ 0x20
  let s := ((s.dropWhile isOuter).reverse.dropWhile isOuter).reverse
  s.filter fun c => !(c == '\t' || c == '\n' || c == '\r')

/-- The scheme in lowercase letters, and what follows the colon. -/
def scheme? (s : List Char) : Option (String × List Char) :=
  match Text.cutFirst ':' s with
  | some (scheme, rest) =>
    match scheme with
    | c :: more =>
      if c.isAlpha && more.all fun c => c.isAlphanum || c == '+' || c == '-' || c == '.' then
        some (String.ofList (scheme.map Char.toLower), rest)
      else none
    | [] => none
  | none => none

def isWeb (scheme : String) : Bool := scheme == "http" || scheme == "https"

/-- An absolute URL of the web. -/
def parse? (s : String) : Option Url :=
  match scheme? (clean s.toList) with
  | some (scheme, rest) =>
    if isWeb scheme then authority? scheme (rest.dropWhile isSlash) else none
  | none => none

/-- The segments of a path, last first. -/
def done (path : List Char) : List (List Char) := (Text.fields '/' (path.drop 1)).reverse

/-- A reference seen from a URL. -/
def relative? (base : Url) (s : List Char) : Option Url :=
  match s with
  | [] => some base
  | '/' :: '/' :: rest => authority? base.scheme rest
  | c :: rest =>
    if isSlash c && (rest.head?.map isSlash).getD false then
      authority? base.scheme (rest.dropWhile isSlash)
    else if isSlash c then
      let (path, query) := pathAndQuery [] s
      some { base with path, query }
    else if c == '?' then
      some { base with query := some (escape escapedInQuery (rest.takeWhile (· != '#'))) }
    else if c == '#' then some base
    else
      let (path, query) := pathAndQuery ((done base.path).drop 1) s
      some { base with path, query }

/-! ## Parts -/

/-- Path and query as they are asked for. -/
def target (u : Url) : List Char :=
  match u.query with
  | some query => u.path ++ '?' :: query
  | none => u.path

def hostChars : Host → List Char
  | .domain name => name
  | .ip (.v6 groups) => '[' :: Ip.v6Chars groups ++ [']']
  | .ip address => address.chars

/-- Host and port as they stand in a `Host` header. -/
def authorityText (u : Url) : String :=
  String.ofList (hostChars u.host) ++
    (match u.port with
    | some port => ":" ++ toString port
    | none => "")

/-- The URL as text, without user and fragment. -/
def text (u : Url) : String :=
  u.scheme ++ "://" ++ u.authorityText ++ String.ofList u.target

/-- Can the URL be the target of a request? A host may have signs that a target has not. -/
def isTarget (u : Url) : Bool := (Target.parse? u.text).isSome

/-- Where a call to the URL is made. -/
def place (u : Url) : Place := .origin u.scheme u.host (u.port.getD (defaultPort u.scheme))

/-- The URL with one more query field. -/
def withField (u : Url) (name value : String) : Url :=
  let field := (Form.encode name ++ "=" ++ Form.encode value).toList
  { u with query := some (match u.query with
    | some query => if query.isEmpty then field else query ++ '&' :: field
    | none => field) }

/-! ## Other schemes -/

/-- The schemes whose URLs are built like those of the web. -/
def isWebLike (scheme : String) : Bool := ["ftp", "ws", "wss"].contains scheme

def forbiddenInOtherHost (c : Char) : Bool := "\x00 #/:<>?@[\\]^|".toList.contains c

/-- The host of some other scheme in front of a port, as it is written. -/
def otherHost? (s : List Char) : Option (List Char) :=
  match s with
  | '[' :: _ => (host? s).map hostChars
  | s => if s.any forbiddenInOtherHost then none else some (escape isControl s)

/-- The host of what follows the two slashes in a URL of some other scheme. -/
def otherAuthority? (s : List Char) : Option (List Char) := do
  let whole := s.takeWhile fun c => !(c == '/' || c == '?' || c == '#')
  let rest := match Text.cutLast '@' whole with
    | some (_, rest) => rest
    | none => whole
  let bracketed := bracket rest
  let host ← otherHost? bracketed
  match rest.drop bracketed.length with
  | [] => return host
  | ':' :: port => (port? "" (port.takeWhile (· != '\\'))).map fun _ => host
  | _ => none

/-- The host of a file; this machine is none. -/
def fileHost? (s : List Char) : Option (List Char) :=
  match s with
  | a :: b :: rest =>
    let name := rest.takeWhile fun c => !(isSlash c || c == '?' || c == '#')
    if isSlash a && isSlash b && !isDrive name then
      ((host? name).map hostChars).filter (· != "localhost".toList)
    else none
  | _ => none

/-- Could a request ask for the URL with this scheme and rest? -/
def isAskedFor (scheme : String) (rest : List Char) : Bool :=
  let hasHost (host : Option (List Char)) : Bool :=
    scheme.length ≤ Target.maxScheme &&
      (host.map fun s => !s.isEmpty && Target.isAuthority s).getD false
  if isWebLike scheme then
    ((authority? scheme (rest.dropWhile isSlash)).map isTarget).getD false
  else if scheme == "file" then hasHost (fileHost? rest)
  else match Text.dropHead? ['/', '/'] rest with
    | some rest => hasHost (otherAuthority? rest)
    | none => Target.isAuthority (scheme.toList ++ ':' :: escape isControl rest)

/-! ## References -/

/-- What a reference leads to. -/
inductive Lead where
  | url (u : Url)
  /-- A place that can be asked for, but not over the web. -/
  | elsewhere
  | nowhere

/-- What a reference in a document at `base` leads to. -/
def lead (base : Url) (s : String) : Lead :=
  let s := clean s.toList
  let found (url : Option Url) : Lead :=
    match url.filter isTarget with
    | some url => .url url
    | none => .nowhere
  match scheme? s with
  | some (scheme, rest) =>
    if !isWeb scheme then if isAskedFor scheme rest then .elsewhere else .nowhere
    else if scheme == base.scheme && !(rest.length ≥ 2 && (rest.take 2).all isSlash) then
      found (relative? base rest)
    else found (authority? scheme (rest.dropWhile isSlash))
  | none => found (relative? base s)

end Url

end HostFleet.Http
