import HostFleet.Http.Chunked
import HostFleet.Http.Message

/-! # Requests on a connection

The requests among the bytes that a client wrote, and the heads of their answers.

* `Inbound.first`, `Inbound.next`: what is found at the start of a connection and behind a request.
* `Inbound.goesOn`: does the connection stay behind the answer?
* `Inbound.statusLine`, `Inbound.answerHeaders`, `Inbound.writtenBody`: the answer as it is written.
-/

set_option autoImplicit false

namespace HostFleet.Http

/-- What it takes to find the end of a body. -/
inductive BodyEnd where
  /-- It is found even when nobody reads the body. -/
  | near
  /-- It stands behind several chunks, and is found when the body is read. -/
  | far
  /-- Header lines stand in front of it, behind which no request is looked for. -/
  | trailed
  deriving DecidableEq, Repr

/-- A request and what the client wrote behind it. -/
structure Inbound where
  request : Request
  bodyEnd : BodyEnd
  rest : Bytes
  /-- Does the client leave the connection open for another request? -/
  stays : Bool
  deriving Repr

namespace Inbound

/-! ## The head -/

/-- The head of a request as it is written. -/
structure Opening where
  method : String
  target : String
  version : Version
  headers : Headers

/-- May the byte stand in a target? -/
def isTargetByte (b : UInt8) : Bool := 0x20 < b && b != 0x7F

/-- Method and target. -/
def readNames (bytes : Bytes) : Reading (String × String) :=
  (Head.word Head.isTokenByte 0x20 bytes).andThen fun method rest =>
    (Head.word isTargetByte 0x20 rest).andThen fun target rest =>
      match Bytes.text? target with
      | some target => .whole (Bytes.lossy method, target) rest
      | none => .flawed .malformed

/-- Reads a head. -/
def readOpening (bytes : Bytes) : Reading Opening :=
  (Head.emptyLines bytes).andThen fun _ rest =>
    (readNames rest).andThen fun (method, target) rest =>
      (Head.isLater rest).andThen fun later rest =>
        (Head.lineEnd rest).andThen fun _ rest =>
          (Head.fields Head.maxFields rest).andThen fun headers rest =>
            .whole ⟨method, target, if later then .http11 else .http10, headers⟩ rest

/-! ## The framing of the body -/

/-- What the headers say about the body. -/
structure Framing where
  /-- Is the body coded, and are chunks the last of its codings? -/
  coded : Bool
  chunked : Bool
  length : Option Nat
  deriving DecidableEq, Repr

/-- The length that a line announces by nothing but its digits. -/
def lineLength? (value : Bytes) : Option Nat := (Headers.visible? value).bind Headers.lengthOf?

/-- Heeds a header line. Behind a coding no length counts, and lengths have to agree. -/
def Framing.heed (version : Version) (f : Framing) (line : String × Bytes) : Except Flaw Framing :=
  if line.1 == "transfer-encoding" then
    if version == .http11 then
      .ok { f with coded := true, chunked := Headers.endsInChunked line.2 }
    else .error .malformed
  else if line.1 == "content-length" && !f.coded then
    match lineLength? line.2, f.length with
    | none, _ => .error .malformed
    | some n, some m => if n == m then .ok f else .error .malformed
    | some n, none =>
      if Headers.maxLength < n then .error .tooLarge else .ok { f with length := some n }
  else .ok f

/-- The framing that the headers announce; a coding whose end is not known is refused. -/
def framing (version : Version) (h : Headers) : Except Flaw Framing := do
  let f ← h.foldlM (Framing.heed version) ⟨false, false, none⟩
  if f.coded && !f.chunked then .error .malformed else .ok f

/-- The lines with one length at most, and none beside a coding. -/
def heeded (h : Headers) : Headers :=
  if h.has "transfer-encoding" then h.without ["content-length"]
  else match h.dropWhile fun line => line.1 != "content-length" with
    | [] => h
    | line :: more =>
      (h.takeWhile fun line => line.1 != "content-length") ++
        line :: Headers.without more ["content-length"]

/-! ## The connection -/

/-- Does a `Connection` line name the token? -/
def names (token : String) (value : Bytes) : Bool :=
  match Headers.visible? value with
  | some s => Upgrade.namesToken token.toList s
  | none => false

/-- Do the headers leave the connection open? A body that is framed in two ways does not. -/
def keepsOpen (version : Version) (h : Headers) : Bool :=
  let connection := h.values "connection"
  !(h.has "transfer-encoding" && h.has "content-length") && !connection.any (names "close") &&
    (version == .http11 || connection.any (names "keep-alive"))

/-! ## Reading -/

/-- What is found among the bytes of a client. -/
inductive Found where
  /-- The head is not complete. -/
  | incomplete
  /-- The greeting of a protocol that is not spoken here. -/
  | foreign
  | refused (flaw : Flaw)
  | request (inbound : Inbound)

/-- The request with a target and a framing, whose body stands in front of `rest`. -/
def ofParts (o : Opening) (target : Target) (f : Framing) (rest : Bytes) : Inbound :=
  let request (body : Bytes) (sized broken : Bool) : Request :=
    ⟨o.method, target, o.version, heeded o.headers, body, sized, broken⟩
  let stays := keepsOpen o.version o.headers
  if f.chunked then
    let c := Chunked.read rest
    let bodyEnd := if c.trailed then .trailed else if c.count ≤ 1 then .near else .far
    ⟨request c.body false c.rest.isNone, bodyEnd, c.rest.getD [], stays⟩
  else
    let n := f.length.getD 0
    ⟨request (rest.take n) true (rest.length < n), .near, rest.drop n, stays⟩

/-- The request of a head, with its body behind. -/
def ofOpening (o : Opening) (rest : Bytes) : Found :=
  if Target.maxLength < o.target.utf8ByteSize then .refused .longTarget
  else match Target.parse? o.target, framing o.version o.headers with
    | none, _ => .refused .malformed
    | _, .error flaw => .refused flaw
    | some target, .ok f => .request (ofParts o target f rest)

/-- The longest head, in bytes. -/
def maxHead : Nat := 417792

/-- Reads the next request. -/
def next (bytes : Bytes) : Found :=
  match readOpening bytes with
  | .partly => if maxHead ≤ bytes.length then .refused .tooLarge else .incomplete
  | .flawed flaw => .refused flaw
  | .whole o rest => ofOpening o rest

/-- What a client of version 2 writes first. -/
def greeting : Bytes := Bytes.ofText "PRI * HTTP/2.0\r\n\r\nSM\r\n\r\n"

/-- Is there an empty line? -/
def hasEmptyLine : Bytes → Bool
  | 0x0D :: 0x0A :: 0x0D :: 0x0A :: _ | 0x0A :: 0x0A :: _ => true
  | _ :: rest => hasEmptyLine rest
  | [] => false

/-- Reads the first request. As many bytes as that greeting has are looked at by themselves: a flaw among
them is found at once, but one behind them only when an empty line has come. -/
def first (bytes : Bytes) : Found :=
  let front := bytes.take greeting.length
  if front == greeting then .foreign
  else match readOpening front with
    | .partly =>
      if hasEmptyLine (bytes.drop (greeting.length - 3)) then next bytes
      else if maxHead ≤ bytes.length then .refused .tooLarge
      else .incomplete
    | _ => next bytes

/-! ## The answer -/

/-- Is the body behind its head all there, and its end seen without the end of the connection? -/
def isDelimited (r : Request) (a : Response) : Bool :=
  !hasBody r.method a.status ||
    (!a.broken && a.headers.contentLength?.all (· ≤ a.body.length) &&
      (a.sized || r.version == .http11))

/-- Does the connection stay for another request when this one is answered, with its body read or not? -/
def goesOn (i : Inbound) (read : Bool) (a : Response) : Bool :=
  i.stays && a.status != 101 && !(a.headers.values "connection").any (names "close") &&
    isDelimited i.request a &&
    match i.bodyEnd with
    | .near => true
    | .far => read
    | .trailed => false

/-- The answer's headers: they say what becomes of the connection where the version does not. -/
def answerHeaders (i : Inbound) (a : Response) : Headers :=
  let say (word : String) : Headers :=
    a.headers.without ["connection"] ++ [("connection", Bytes.ofText word)]
  let said := ((a.headers.first? "connection").map (names "keep-alive")).getD false
  match i.request.version == .http11, i.stays with
  | true, true => a.headers
  | true, false => say "close"
  | false, true => if said then a.headers else say "keep-alive"
  | false, false => a.headers

/-- Version, status and phrase. -/
def statusLine (version : Version) (a : Response) : String :=
  let phrase := a.reason.getD ((reason? a.status).getD "<none>")
  version.name ++ " " ++ toString a.status ++ " " ++ phrase

/-- Is the body written in chunks? -/
def isChunked (r : Request) (a : Response) : Bool :=
  hasBody r.method a.status && r.version == .http11 && !a.sized

/-- The bytes of the body that are written, without their framing: not more than are announced. -/
def writtenBody (r : Request) (a : Response) : Bytes :=
  if !hasBody r.method a.status then []
  else match a.headers.contentLength? with
    | some n => a.body.take n
    | none => a.body

/-- The answer to what is no request. -/
def refusal (flaw : Flaw) : Response :=
  let status := match flaw with
    | .malformed => 400
    | .longTarget => 414
    | .tooLarge => 431
  ⟨status, none, [("connection", Bytes.ofText "close")], [], true, false⟩

end Inbound

end HostFleet.Http
