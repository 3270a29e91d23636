import TunnelRelay.Config
import TunnelRelay.Failure
import TunnelRelay.Profile

/-! The table of the instances that are reached directly. Keys of the settings
that name one instance go to the host of the last of them in ascending order. An
instance that the table does not name is refused. -/
namespace TunnelRelay

structure Routes where
  hosts : List (Locator × String) := []
  deriving Repr

structure Destination where
  instanceLocator : Locator
  host : String
  port : UInt16
  deriving DecidableEq, Repr

namespace Routes

def insertHost (locator : Locator) (host : String) : List (Locator × String) → List (Locator × String)
  | [] => [(locator, host)]
  | (l, h) :: rest => if l = locator then (locator, host) :: rest else (l, h) :: insertHost locator host rest

def insert (r : Routes) (locator : Locator) (host : String) : Routes := ⟨insertHost locator host r.hosts⟩

def size (r : Routes) : Nat := r.hosts.length

def addTarget (r : Routes) (e : String × String) : Except ProfileError Routes := do
  return r.insert (← Locator.read e.1) e.2

def ofTargets (t : Targets) : Except ProfileError Routes := t.entries.foldlM addTarget {}

def destination (r : Routes) (locator : Locator) (port : UInt16) : Except Failure Destination :=
  match r.hosts.lookup locator with
  | some host => .ok ⟨locator, host, port⟩
  | none => .error (.relayAccessDenied (locator.render ++ " is not a known direct target"))

end Routes

namespace Destination

def connectFailure (d : Destination) (error : IoError) : Failure :=
  let text := d.host ++ ":" ++ toString d.port.toNat ++ ": " ++ error.message
  match error.kind with
  | .connectionRefused | .connectionReset | .connectionAborted | .brokenPipe | .unexpectedEof =>
      .networkStreamClosed text
  | .permissionDenied => .relayAccessDenied text
  | _ => .io error

end Destination
end TunnelRelay
