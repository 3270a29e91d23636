import TunnelRelay.Profile

/-! The pool of tunnels: at most one entry for each key, which is an attempt to
make a tunnel or a finished tunnel. A tunnel that is open keeps its entry; an
attempt, a closed tunnel and no entry at all give way to whatever comes. -/
namespace TunnelRelay

abbrev TunnelId := Nat

inductive PoolEntry where
  | pending (attempt : Nat)
  | live (tunnel : TunnelId)
  deriving DecidableEq, Repr

structure Pool where
  entries : List (ProfileKey × PoolEntry) := []
  nextAttempt : Nat := 0
  deriving Repr

def PoolEntry.healthy (isOpen : TunnelId → Bool) : PoolEntry → Option TunnelId
  | pending _ => none
  | live t => if isOpen t then some t else none

namespace Pool

def entryAt? (p : Pool) (k : ProfileKey) : Option PoolEntry := p.entries.lookup k

def put (p : Pool) (k : ProfileKey) (e : PoolEntry) : Pool :=
  { p with entries := p.entries.filter (fun x => x.1 != k) ++ [(k, e)] }

def erase (p : Pool) (k : ProfileKey) : Pool :=
  { p with entries := p.entries.filter fun x => x.1 != k }

def lookup (p : Pool) (isOpen : TunnelId → Bool) (k : ProfileKey) : Option TunnelId :=
  (p.entryAt? k).bind (PoolEntry.healthy isOpen)

def register (p : Pool) (isOpen : TunnelId → Bool) (k : ProfileKey) : Pool × Nat :=
  let attempt := p.nextAttempt
  let p := { p with nextAttempt := attempt + 1 }
  (if (p.lookup isOpen k).isSome then p else p.put k (.pending attempt), attempt)

def promote (p : Pool) (isOpen : TunnelId → Bool) (k : ProfileKey) (t : TunnelId) : Pool × Bool :=
  if (p.lookup isOpen k).isSome then (p, false) else (p.put k (.live t), true)

def abandon (p : Pool) (k : ProfileKey) (attempt : Nat) : Pool :=
  if p.entryAt? k = some (.pending attempt) then p.erase k else p

def remove (p : Pool) (k : ProfileKey) (t : TunnelId) : Pool :=
  if p.entryAt? k = some (.live t) then p.erase k else p

def members (p : Pool) (isOpen : TunnelId → Bool) : List TunnelId :=
  p.entries.filterMap fun x => x.2.healthy isOpen

end Pool
end TunnelRelay
