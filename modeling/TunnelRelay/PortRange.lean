/-! Ranges of local port numbers, both ends included, and the next port to try
out of one. A range whose last port lies below its first is empty. Port zero is
never handed out, nor any port tried before. A bounded number of random draws
comes first; then the range is searched in order, so a port is found whenever
there is one. -/
namespace TunnelRelay

structure PortRange where
  first : UInt16
  last : UInt16
  deriving DecidableEq, Repr

namespace PortRange

def isEmpty (r : PortRange) : Bool := r.last < r.first

def size (r : PortRange) : Nat :=
  if r.isEmpty then 0 else (r.last - r.first).toNat + 1

def ports (r : PortRange) : List UInt16 :=
  (List.range (r.last.toNat + 1 - r.first.toNat)).map fun i => UInt16.ofNat (r.first.toNat + i)

def contains (r : PortRange) (port : UInt16) : Bool := r.first ≤ port && port ≤ r.last

def dynamic : PortRange := ⟨49152, 65535⟩

def describe (r : PortRange) : String :=
  "PortRange \x7b first: " ++ toString r.first.toNat ++ ", last: " ++ toString r.last.toNat ++ " \x7d"

def pick (r : PortRange) (random : Nat) : UInt16 :=
  UInt16.ofNat (r.first.toNat + random % r.size)

def untried (tried : List UInt16) (port : UInt16) : Bool := port != 0 && !tried.contains port

def drawLimit : Nat := 32

def next (r : PortRange) (tried : List UInt16) (random : Nat → Nat) : Option UInt16 :=
  if r.isEmpty then none
  else
    match ((List.range drawLimit).map fun i => r.pick (random i)).find? (untried tried) with
    | some port => some port
    | none => r.ports.find? (untried tried)

end PortRange
end TunnelRelay
