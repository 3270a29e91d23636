import TunnelRelay.Endpoint
import TunnelRelay.Locator

/-! Protocols and policies. Each has an identity, which takes part in sharing,
and a verdict on targets; a policy also says which clients may use a tunnel.
The identity of an allow list names its ports, ascending and without
repetitions, so that equal identities mean equal lists. -/
namespace TunnelRelay

structure Protocol where
  id : String
  permits : Locator → UInt16 → Bool

structure Policy where
  id : String
  permits : Locator → UInt16 → Bool
  admits : Endpoint → Bool := Endpoint.isLoopback

namespace Protocol

def rdp : Protocol := ⟨"rdp", fun _ port => port != 0⟩
def ssh : Protocol := ⟨"ssh", fun _ port => port != 0⟩
def rdpPort : UInt16 := 3389
def sshPort : UInt16 := 22

end Protocol

def sortedPorts (ports : List UInt16) : List UInt16 :=
  (ports.mergeSort fun a b => a ≤ b).foldr (fun p rest => if rest.head? = some p then rest else p :: rest) []

namespace Policy

def allowAll : Policy := { id := "allow-all", permits := fun _ _ => true }

def allowPorts (ports : List UInt16) : Policy where
  id := "ports:" ++ ",".intercalate ((sortedPorts ports).map fun p => toString p.toNat)
  permits := fun _ port => (sortedPorts ports).contains port

end Policy
end TunnelRelay
