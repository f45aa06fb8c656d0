import HostFleet.Http.Chunked
import HostFleet.Http.Message

/-! # Answers on a connection

The answer among the bytes that a host wrote before it closed the connection.

* `Answer.read?`: the answer to a method; answers that come before it are passed over.
-/

set_option autoImplicit false

namespace HostFleet.Http

/-- An answer, and what the host wrote behind it if it switched protocols. -/
structure Answer where
  response : Response
  behind : Bytes
  deriving Repr

namespace Answer

/-! ## The head -/

/-- The head of an answer as it is written. -/
structure Opening where
  version : Version
  status : Nat
  phrase : String
  headers : Headers

/-- Reads three digits behind a blank. -/
def readStatus (bytes : Bytes) : Reading Nat :=
  match bytes with
  | 0x20 :: a :: b :: c :: rest =>
    match Decimal.natural? ([a, b, c].map fun d => Char.ofNat d.toNat) with
    | some n => .whole n rest
    | none => .flawed .malformed
  | _ => .flawed .malformed

/-- Reads the phrase behind a status, which may be missing; one that is not ASCII is not kept. -/
def readPhrase (bytes : Bytes) : Reading String :=
  match bytes with
  | 0x20 :: more =>
    let phrase := more.takeWhile Head.isValueByte
    (Head.lineEnd (more.dropWhile Head.isValueByte)).andThen fun _ rest =>
      .whole (if phrase.all Headers.isVisible then Bytes.lossy phrase else "") rest
  | bytes => (Head.lineEnd bytes).andThen fun _ rest => .whole "" rest

/-- Reads a head. -/
def readOpening (bytes : Bytes) : Reading Opening :=
  (Head.emptyLines bytes).andThen fun _ rest =>
    (Head.isLater rest).andThen fun later rest =>
      (readStatus rest).andThen fun status rest =>
        (readPhrase rest).andThen fun phrase rest =>
          (Head.fields Head.maxFields rest).andThen fun headers rest =>
            .whole ⟨if later then .http11 else .http10, status, phrase, headers⟩ rest

/-! ## The body -/

/-- The answer with the body that its headers announce, whose bytes stand in front of `rest`. Without an
announcement it goes on to the end. -/
def ofOpening? (method : String) (o : Opening) (rest : Bytes) : Option Response :=
  let answer (body : Bytes) (broken : Bool) : Response :=
    ⟨o.status, if reason? o.status == some o.phrase then none else some o.phrase, o.headers, body,
      o.headers.has "content-length", broken⟩
  if !hasBody method o.status then some (answer [] false)
  else match (o.headers.values "transfer-encoding").getLast? with
    | some coding =>
      if o.version == .http10 then none
      else if Headers.endsInChunked coding then
        let c := Chunked.read rest
        some (answer c.body c.rest.isNone)
      else some (answer rest false)
    | none =>
      if o.headers.has "content-length" then
        (o.headers.contentLength?.filter (· ≤ Headers.maxLength)).map fun n =>
          answer (rest.take n) (rest.length < n)
      else some (answer rest false)

/-! ## Reading -/

/-- Reads the answer, passing over at most `limit` answers that come before it. -/
def readFrom? (method : String) (limit : Nat) (bytes : Bytes) : Option Answer :=
  match readOpening bytes with
  | .whole o rest =>
    if o.status < 100 then none
    else if o.status = 101 then (ofOpening? method o rest).map fun r => ⟨r, rest⟩
    else if o.status < 200 then
      match limit with
      | 0 => none
      | limit + 1 => readFrom? method limit rest
    else (ofOpening? method o rest).map fun r => ⟨r, []⟩
  | _ => none

/-- The answer to the method. -/
def read? (method : String) (bytes : Bytes) : Option Answer :=
  readFrom? method bytes.length bytes

end Answer

end HostFleet.Http
