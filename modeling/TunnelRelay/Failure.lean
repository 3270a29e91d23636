import TunnelRelay.Duration
import TunnelRelay.Endpoint.Text
import TunnelRelay.IoError

/-! Why a tunnel could not be made or a transport not be given. Each cause has
one message and belongs to one help topic; a refused transport carries the topic
of its cause. A bind that fails because the port is taken or forbidden is a
conflict over the port, for which another port may do; any other is not. -/
namespace TunnelRelay

inductive Failure where
  | portAccessDenied (endpoint : Endpoint) (source : IoError)
  | relayAccessDenied (text : String)
  | networkStreamClosed (text : String)
  | connectionDenied (text : String)
  | policyDenied (policy target : String)
  | invalidEndpoint (endpoint : Endpoint)
  | timeout (after : Duration)
  | cancelled
  | io (source : IoError)
  deriving DecidableEq, Repr

namespace Failure

def messageShowing (showPort : UInt16 → String) : Failure → String
  | portAccessDenied endpoint source =>
      "Access to local port " ++ showPort endpoint.port ++ " denied: " ++ source.message
  | relayAccessDenied text => "Relay access denied: " ++ text
  | networkStreamClosed text => "Network stream closed: " ++ text
  | connectionDenied text => "Connection denied: " ++ text
  | policyDenied policy target => "Policy " ++ policy ++ " does not permit " ++ target
  | invalidEndpoint endpoint => "Invalid local endpoint " ++ endpoint.render
  | timeout after => "Timed out after " ++ after.render
  | cancelled => "Cancelled"
  | io source => "I/O error: " ++ source.message

def message : Failure → String := messageShowing fun port => toString port.toNat

def source : Failure → Option IoError
  | portAccessDenied _ source => some source
  | io source => some source
  | _ => none

def isPortConflict : Failure → Bool
  | portAccessDenied .. => true
  | _ => false

def ofBind (endpoint : Endpoint) (error : IoError) : Failure :=
  match error.kind with
  | .addrInUse | .permissionDenied => portAccessDenied endpoint error
  | _ => io error

end Failure

inductive HelpTopic where
  | iapAccess | createIapFirewallRule | proxyConfiguration | localPortAccess | general
  deriving DecidableEq, Repr

namespace HelpTopic

def all : List HelpTopic :=
  [iapAccess, createIapFirewallRule, proxyConfiguration, localPortAccess, general]

def id : HelpTopic → String
  | iapAccess => "iap-access"
  | createIapFirewallRule => "create-iap-firewall-rule"
  | proxyConfiguration => "proxy-configuration"
  | localPortAccess => "local-port-access"
  | general => "general"

def ofFailure : Failure → HelpTopic
  | .relayAccessDenied _ => iapAccess
  | .networkStreamClosed _ => createIapFirewallRule
  | .connectionDenied _ => proxyConfiguration
  | .portAccessDenied .. => localPortAccess
  | .policyDenied .. | .invalidEndpoint _ | .timeout _ | .cancelled | .io _ => general

end HelpTopic

structure Refusal where
  reason : Failure
  topic : HelpTopic := HelpTopic.ofFailure reason
  classified : topic = HelpTopic.ofFailure reason := by rfl

namespace Refusal

def ofFailure (reason : Failure) : Refusal := { reason }

def message (r : Refusal) : String :=
  "Transport failed [" ++ r.topic.id ++ "]: " ++ r.reason.message

def isCancelled (r : Refusal) : Bool := r.reason == .cancelled

end Refusal
end TunnelRelay
