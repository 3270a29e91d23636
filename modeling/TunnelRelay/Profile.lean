import TunnelRelay.Capability
import TunnelRelay.Endpoint.Text

/-! Profiles of the tunnels that callers ask for. A profile never has target
port zero. Two profiles share a tunnel exactly when their keys are equal; the
preferred local endpoint is no part of the key. -/
namespace TunnelRelay
open Text

inductive ProfileError where
  | invalidPort (port : UInt16)
  | invalidLocator (text : String)
  deriving DecidableEq, Repr

def ProfileError.message : ProfileError → String
  | invalidPort port => "Invalid target port: " ++ toString port.toNat
  | invalidLocator text => "Invalid instance locator: " ++ text

def Locator.read (text : String) : Except ProfileError Locator :=
  match Locator.parse? text with
  | some locator => .ok locator
  | none => .error (.invalidLocator text)

structure Profile where
  protocol : Protocol
  policy : Policy
  instanceLocator : Locator
  port : UInt16
  localEndpoint : Option Endpoint
  portNonzero : port ≠ 0

structure ProfileKey where
  protocol : String
  policy : String
  instanceLocator : Locator
  port : UInt16
  deriving DecidableEq, Repr

namespace Profile

def make (protocol : Protocol) (policy : Policy) (instanceLocator : Locator) (port : UInt16)
    (localEndpoint : Option Endpoint) : Except ProfileError Profile :=
  if h : port = 0 then .error (.invalidPort port)
  else .ok ⟨protocol, policy, instanceLocator, port, localEndpoint, h⟩

def key (p : Profile) : ProfileKey :=
  ⟨p.protocol.id, p.policy.id, p.instanceLocator, p.port⟩

def isPermitted (p : Profile) : Bool :=
  p.protocol.permits p.instanceLocator p.port && p.policy.permits p.instanceLocator p.port

def target (p : Profile) : String :=
  p.instanceLocator.render ++ ":" ++ toString p.port.toNat

def render (p : Profile) : String :=
  p.target ++ " (" ++ p.protocol.id ++ ", " ++ p.policy.id ++ ")"

def describe (p : Profile) : String :=
  let endpoint := match p.localEndpoint with
    | none => "None"
    | some e => "Some(" ++ e.render ++ ")"
  "TunnelProfile \x7b protocol: " ++ quoted p.protocol.id ++ ", policy: " ++ quoted p.policy.id ++
    ", target_instance: " ++ p.instanceLocator.describe ++ ", target_port: " ++ toString p.port.toNat ++
    ", local_endpoint: " ++ endpoint ++ " \x7d"

end Profile
end TunnelRelay
