import HostFleet.Address.Basic

/-! # Sockets and a loopback network

What a controller can bind and join, on any machine and on one that has only its loopback addresses.

* `Sockets`: what a machine does when it is asked for a socket.
* `Network.bind`: takes a TCP address; `Network.join` joins a group; `Network.sockets` is both together.
* `Network.reaches`: is something bound where a connection goes?
-/

set_option autoImplicit false

namespace HostFleet

/-- What a machine with a state does when it is asked for a socket; it refuses with a reason. -/
structure Sockets (σ : Type) where
  /-- Takes a port for datagrams. -/
  take : σ → Nat → Except String σ
  /-- Joins a group with the socket of its port. -/
  join : σ → SocketAddress → Except String σ
  /-- Listens at the address that a text names. -/
  bind : σ → String → Except String (σ × SocketAddress)

/-- A network and what is bound in it. -/
structure Network where
  /-- Is there a way to other addresses? -/
  up : Bool
  bound : List SocketAddress
  deriving DecidableEq, Repr

namespace Network

def empty (up : Bool) : Network := ⟨up, []⟩

def isLoopback (s : SocketAddress) : Bool := s.a == 127

/-- Is it the address that stands for all? -/
def isAny (s : SocketAddress) : Bool := s.a == 0 && s.b == 0 && s.c == 0 && s.d == 0

/-- Do the two exclude each other? Port 0 stands for a free one. -/
def conflict (s t : SocketAddress) : Bool :=
  s.port != 0 && s.port == t.port && (s.ip == t.ip || isAny s || isAny t)

/-- Binds an address of this machine that is free. -/
def bind (n : Network) (address : String) : Except String (Network × SocketAddress) :=
  match SocketAddress.readV4? address.toList with
  | none => .error "invalid socket address"
  | some s =>
    if !isLoopback s && !isAny s then .error "Cannot assign requested address (os error 99)"
    else if n.bound.any (conflict s) then .error "Address already in use (os error 98)"
    else .ok ({ n with bound := s :: n.bound }, s)

/-- Joins a group, which does not stand in the way of anything else. -/
def join (n : Network) (group : SocketAddress) : Except String Network :=
  if !group.isGroup then .error "Invalid argument (os error 22)"
  else if !n.up then .error "No such device (os error 19)"
  else .ok n

/-- The sockets of the loopback network; every port is free for datagrams. -/
def sockets : Sockets Network := ⟨fun n _ => .ok n, join, bind⟩

/-- Does a connection to `target` reach what is bound at `s`? Only loopback addresses reach anything. -/
def reaches (target s : SocketAddress) : Bool :=
  isLoopback target && target.port != 0 && target.port == s.port && (target.ip == s.ip || isAny s)

/-- The longest datagram that can be sent. -/
def maxDatagram : Nat := 65507

/-- Can the datagram be sent? -/
def sends (n : Network) (datagram : Bytes) : Bool := n.up && datagram.length ≤ maxDatagram

end Network

end HostFleet
