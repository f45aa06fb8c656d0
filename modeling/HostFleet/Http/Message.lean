import HostFleet.Fault
import HostFleet.Http.Headers
import HostFleet.Http.Target
import HostFleet.Json.Basic

/-! # HTTP messages

* `Request`, `Response`: what clients send and get.
* `Response.json`, `Response.ofFault`: answers made here.
* `reason?`: the phrase that goes with a status.
-/

set_option autoImplicit false

namespace HostFleet.Http

inductive Version where
  | http09
  | http10
  | http11
  | http2
  | http3
  deriving DecidableEq, Repr

def Version.name : Version → String
  | http09 => "HTTP/0.9"
  | http10 => "HTTP/1.0"
  | http11 => "HTTP/1.1"
  | http2 => "HTTP/2.0"
  | http3 => "HTTP/3.0"

structure Request where
  method : String
  target : Target
  version : Version
  headers : Headers
  body : Bytes
  /-- Is the length of the body known before all of it is read? -/
  sized : Bool
  /-- Does the body end before its announced end? -/
  broken : Bool
  deriving Repr, DecidableEq

structure Response where
  status : Nat
  /-- The phrase behind the status, when it is not the usual one. -/
  reason : Option String
  headers : Headers
  body : Bytes
  /-- Is the length of the body announced? -/
  sized : Bool
  /-- Does the body end before its announced end? -/
  broken : Bool
  deriving Repr, DecidableEq

namespace Response

/-- An answer with a body of a type. -/
def ofBody (status : Nat) (contentType : String) (body : Bytes) : Response :=
  ⟨status, none, [("content-type", Bytes.ofText contentType)], body, true, false⟩

def json (status : Nat) (value : Json) : Response :=
  ofBody status "application/json" (Bytes.ofText value.render)

/-- Code and message of a fault, as clients see them. -/
def faultJson (fault : Fault) : Json :=
  .object [("code", .text fault.code), ("message", .text fault.message)]

def ofFault (fault : Fault) : Response := json fault.status (faultJson fault)

/-- The answer to a request that has no route. -/
def notFound : Response :=
  json 404 (.object [("code", .text "NOT_FOUND"), ("error", .text "Not found")])

end Response

/-- The phrases of the registered statuses. -/
def reasons : List (Nat × String) :=
  [(100, "Continue"), (101, "Switching Protocols"), (102, "Processing"), (103, "Early Hints"),
    (200, "OK"), (201, "Created"), (202, "Accepted"), (203, "Non Authoritative Information"),
    (204, "No Content"), (205, "Reset Content"), (206, "Partial Content"), (207, "Multi-Status"),
    (208, "Already Reported"), (226, "IM Used"), (300, "Multiple Choices"),
    (301, "Moved Permanently"), (302, "Found"), (303, "See Other"), (304, "Not Modified"),
    (305, "Use Proxy"), (307, "Temporary Redirect"), (308, "Permanent Redirect"),
    (400, "Bad Request"), (401, "Unauthorized"), (402, "Payment Required"), (403, "Forbidden"),
    (404, "Not Found"), (405, "Method Not Allowed"), (406, "Not Acceptable"),
    (407, "Proxy Authentication Required"), (408, "Request Timeout"), (409, "Conflict"),
    (410, "Gone"), (411, "Length Required"), (412, "Precondition Failed"),
    (413, "Payload Too Large"), (414, "URI Too Long"), (415, "Unsupported Media Type"),
    (416, "Range Not Satisfiable"), (417, "Expectation Failed"), (418, "I'm a teapot"),
    (421, "Misdirected Request"), (422, "Unprocessable Entity"), (423, "Locked"),
    (424, "Failed Dependency"), (425, "Too Early"), (426, "Upgrade Required"),
    (428, "Precondition Required"), (429, "Too Many Requests"),
    (431, "Request Header Fields Too Large"), (451, "Unavailable For Legal Reasons"),
    (500, "Internal Server Error"), (501, "Not Implemented"), (502, "Bad Gateway"),
    (503, "Service Unavailable"), (504, "Gateway Timeout"), (505, "HTTP Version Not Supported"),
    (506, "Variant Also Negotiates"), (507, "Insufficient Storage"), (508, "Loop Detected"),
    (510, "Not Extended"), (511, "Network Authentication Required")]

/-- The phrase of a registered status. -/
def reason? (status : Nat) : Option String := reasons.lookup status

/-- The status with its phrase. -/
def statusText (status : Nat) : String :=
  toString status ++ " " ++ (reason? status).getD "<unknown status code>"

/-- Has the answer to the method a body? -/
def hasBody (method : String) (status : Nat) : Bool :=
  method != "HEAD" && 200 ≤ status && status != 204 && status != 304

def isSuccess (status : Nat) : Bool := 200 ≤ status && status < 300

end HostFleet.Http
