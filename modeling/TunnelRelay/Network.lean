import TunnelRelay.Endpoint.Host
import TunnelRelay.Failure
import TunnelRelay.Routing

/-! The network that a program sees: which addresses it may listen on, which
endpoints are taken, and where connections lead. Without a network no connection
succeeds. On a loopback network a connection reaches the listener of exactly its
address and port, an unspecified address standing for the loopback one. -/
namespace TunnelRelay

structure Network where
  connected : Bool := false
  refusals : List (Address × Nat) := []
  taken : List (Address × UInt16) := []

namespace Network

def isLocal : Address → Bool
  | .v4 ip => ip.a == 127 || ip.a == 10 || ip == Ipv4.unspecified
  | .v6 ip => ip == Ipv6.localhost || ip == Ipv6.unspecified

def mayListen (n : Network) (a : Address) : Bool :=
  if n.connected then isLocal a
  else match a with
    | .v4 _ => true
    | .v6 _ => false

def freePort (n : Network) (a : Address) : Nat → UInt16
  | 0 => 0
  | p + 1 =>
      let port := UInt16.ofNat (p + 1)
      if n.taken.contains (a, port) then n.freePort a p else port

def lastFreePort : Nat := 48999

def occupy (n : Network) (e : Endpoint) : Network := { n with taken := (e.address, e.port) :: n.taken }

def listen (n : Network) (e : Endpoint) : Except IoError (Endpoint × Network) :=
  let a := e.address
  if !n.mayListen a then .error (.os 99)
  else if n.taken.contains (a, e.port) then .error (.os 98)
  else
    let bound := if e.port = 0 then e.withPort (n.freePort a lastFreePort) else e
    .ok (bound, n.occupy bound)

def bind (n : Network) (e : Endpoint) : Except Failure (Endpoint × Network) :=
  (n.listen e).mapError (Failure.ofBind e)

def release (n : Network) (e : Endpoint) : Network :=
  { n with taken := n.taken.filter fun t => t != (e.address, e.port) }

def meant : Address → Address
  | .v4 ip => .v4 (if ip = Ipv4.unspecified then Ipv4.localhost else ip)
  | .v6 ip => .v6 (if ip = Ipv6.unspecified then Ipv6.localhost else ip)

def connect (n : Network) (a : Address) (port : UInt16) : Except IoError (Address × UInt16) :=
  if !n.connected then
    match a with
    | .v4 _ => .error (.os 101)
    | .v6 _ => .error (.os 99)
  else
    match n.refusals.lookup a with
    | some errno => .error (.os errno)
    | none =>
        if !isLocal a then .error (.os 101)
        else if n.taken.contains (meant a, port) then .ok (meant a, port)
        else .error (.os 111)

def lookupError (reason : String) : IoError :=
  .described .uncategorized ("failed to lookup address information: " ++ reason)

def resolve (host : String) : Except IoError Address :=
  if host.toList.contains '\x00' then
    .error (.described .invalidInput "file name contained an unexpected NUL byte")
  else match Address.ofSpelling host with
    | .ok a => .ok a
    | .error .unknownScope => .error (lookupError "Name or service not known")
    | .error .noAddress =>
        if host.toLower = "localhost" then .ok (.v4 Ipv4.localhost)
        else .error (lookupError "Temporary failure in name resolution")

def reach (n : Network) (d : Destination) : Except Failure (Address × UInt16) :=
  (do n.connect (← resolve d.host) d.port).mapError d.connectFailure

end Network
end TunnelRelay
