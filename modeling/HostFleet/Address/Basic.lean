import HostFleet.Address.Ip
import HostFleet.Fault
import HostFleet.Text.Split

/-! # Addresses

An address is `scheme://host:port`; the scheme may be missing.

* `Address.split?`: protocol and socket part; the only protocol is `tcp`, and there must be a port.
* `Address.authority`: what stands behind the scheme, whatever it is.
* `Address.ip?`: the IP literal that stands before the last colon.
-/

set_option autoImplicit false

namespace HostFleet.Address

/-- What stands between scheme and host. -/
def schemeMark : List Char := [':', '/', '/']

/-- The protocol of an address that names none. -/
def defaultProtocol : String := "tcp"

/-- Protocol and socket part. -/
def split? (address : String) : Except Fault (String × String) :=
  let (protocol, rest) := match Text.cutAt schemeMark address.toList with
    | some (protocol, rest) => (String.ofList protocol, rest)
    | none => (defaultProtocol, address.toList)
  if protocol ≠ defaultProtocol then
    .error (.invalidAddress ("unsupported protocol " ++ protocol ++ " in " ++ address))
  else if (Text.cutLast ':' rest).isNone then
    .error (.invalidAddress ("missing port in " ++ address))
  else .ok (protocol, String.ofList rest)

/-- The part behind the first scheme mark, or all of an address without one. -/
def authorityList (address : List Char) : List Char :=
  match Text.cutAt schemeMark address with
  | some (_, rest) => rest
  | none => address

def authority (address : String) : String := String.ofList (authorityList address.toList)

/-- The list without the brackets around it. -/
def unbracket (s : List Char) : List Char :=
  ((s.dropWhile (· == '[')).reverse.dropWhile (· == ']')).reverse

/-- The IP address named by a host literal before the port. -/
def ip? (address : String) : Option Ip :=
  (Text.cutLast ':' (authorityList address.toList)).bind fun (host, _) => Ip.read? (unbracket host)

/-- Where a container engine at this address takes calls. -/
def engineUrl? (address : String) : Except Fault String :=
  (split? address).map fun (_, rest) => "http://" ++ rest

end HostFleet.Address
