import TunnelRelay.Text.Decimal

/-! Network addresses and endpoints. Loopback means 127.0.0.0/8 or exactly the
sixth version's address one; a fourth-version address inside the sixth is not
loopback. Only endpoints of the sixth version carry a scope. -/
namespace TunnelRelay

structure Ipv4 where
  a : UInt8
  b : UInt8
  c : UInt8
  d : UInt8
  deriving DecidableEq, Repr

abbrev Ipv6 := Vector UInt16 8

inductive Address where
  | v4 (ip : Ipv4)
  | v6 (ip : Ipv6)
  deriving DecidableEq, Repr

inductive Endpoint where
  | v4 (ip : Ipv4) (port : UInt16)
  | v6 (ip : Ipv6) (port : UInt16) (scope : UInt32)
  deriving DecidableEq, Repr

def Ipv4.localhost : Ipv4 := ⟨127, 0, 0, 1⟩
def Ipv4.unspecified : Ipv4 := ⟨0, 0, 0, 0⟩
def Ipv6.localhost : Ipv6 := #v[0, 0, 0, 0, 0, 0, 0, 1]
def Ipv6.unspecified : Ipv6 := #v[0, 0, 0, 0, 0, 0, 0, 0]

def Address.isLoopback : Address → Bool
  | .v4 ip => ip.a == 127
  | .v6 ip => ip == Ipv6.localhost

namespace Endpoint

def address : Endpoint → Address
  | v4 ip _ => .v4 ip
  | v6 ip _ _ => .v6 ip

def port : Endpoint → UInt16
  | v4 _ port => port
  | v6 _ port _ => port

def scope : Endpoint → UInt32
  | v4 .. => 0
  | v6 _ _ scope => scope

def ofAddress : Address → UInt16 → Endpoint
  | .v4 ip, port => v4 ip port
  | .v6 ip, port => v6 ip port 0

def withPort : Endpoint → UInt16 → Endpoint
  | v4 ip _, port => v4 ip port
  | v6 ip _ scope, port => v6 ip port scope

def isLoopback (e : Endpoint) : Bool := e.address.isLoopback

theorem ofAddressPort (a : Address) (port : UInt16) : (ofAddress a port).port = port := by
  cases a <;> rfl

theorem ofAddressAddress (a : Address) (port : UInt16) : (ofAddress a port).address = a := by
  cases a <;> rfl

theorem ofAddressScope (a : Address) (port : UInt16) : (ofAddress a port).scope = 0 := by
  cases a <;> rfl

theorem withPortScope (e : Endpoint) (port : UInt16) : (e.withPort port).scope = e.scope := by
  cases e <;> rfl

theorem withPortSelf (e : Endpoint) : e.withPort e.port = e := by
  cases e <;> rfl

theorem ofAddressUnscoped {e : Endpoint} (unscoped : e.scope = 0) (port : UInt16) :
    ofAddress e.address port = e.withPort port := by
  cases e with
  | v4 => rfl
  | v6 ip old scope =>
    cases unscoped
    rfl

end Endpoint
end TunnelRelay
