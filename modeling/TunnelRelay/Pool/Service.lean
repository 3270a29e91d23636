import TunnelRelay.Failure
import TunnelRelay.Pool
import TunnelRelay.Tunnel

/-! Transports out of a pool. A request that is permitted and not cancelled takes
the open tunnel of its key or makes one: it marks the key, waits for the creation,
puts the tunnel into the pool unless another open one got there first, takes its
mark away, announces the tunnel, and watches for its end, which it announces itself
if it has come by then. Each of these is one step, and steps of other requests may
come between two of them. -/
namespace TunnelRelay

namespace Service

inductive Stage where
  | entering
  | looking
  | registering
  | creating (attempt : Nat)
  | promoting (attempt : Nat) (tunnel : TunnelId)
  | settling (attempt : Nat) (tunnel : TunnelId)
  | announcing (tunnel : TunnelId)
  | watching (tunnel : TunnelId)
  -- The tunnel had ended before it was watched; its end has yet to be announced.
  | telling (tunnel : TunnelId)
  | done (result : Except Failure TunnelId)
  | aborted

structure Request where
  profile : Profile
  stage : Stage := .entering
  released : Bool := false
  gone : Bool := false

inductive Event where
  | created (tunnel : TunnelId)
  | closed (tunnel : TunnelId)
  deriving DecidableEq, Repr

def Event.tunnel : Event → TunnelId
  | created t => t
  | closed t => t

end Service

structure Service where
  pool : Pool := {}
  tunnels : List (Tunnel ProfileKey) := []
  requests : List Service.Request := []
  published : List Service.Event := []
  alive : Bool := true

namespace Service

def isOpen (s : Service) (t : TunnelId) : Bool := s.tunnels[t]?.any fun x => !x.life.closed

def publish (s : Service) (e : Event) : Service := { s with published := s.published ++ [e] }

def forget (s : Service) (t : TunnelId) (k : ProfileKey) : Service := { s with pool := s.pool.remove k t }

/- What follows a tunnel's end: it leaves the pool, and then its end is published.
Whoever closes the tunnel refers to it, so that there is a tunnel to publish. -/
def runHandler (t : TunnelId) (s : Service) (k : ProfileKey) : Service :=
  if s.alive then (s.forget t k).publish (.closed t) else s

def setLife (s : Service) (t : TunnelId) (life : Lifecycle ProfileKey) : Service :=
  match s.tunnels[t]? with
  | none => s
  | some x => { s with tunnels := s.tunnels.set t { x with life } }

def dispose (s : Service) (t : TunnelId) : Service :=
  match s.tunnels[t]? with
  | none => s
  | some x =>
      let (life, handlers) := x.life.dispose
      handlers.foldl (runHandler t) (s.setLife t life)

def watch (s : Service) (k : ProfileKey) (t : TunnelId) : Option (Service × List ProfileKey) := do
  let x ← s.tunnels[t]?
  let (life, due) := x.life.register k
  some (s.setLife t life, due)

def turn (x : Tunnel ProfileKey) : Tunnel ProfileKey := Tunnel.pollAll x.incoming.length x

def pollLoop (s : Service) (t : TunnelId) : Service :=
  match s.tunnels[t]? with
  | none => s
  | some x =>
      let x := turn x
      let s := { s with tunnels := s.tunnels.set t x }
      if x.loopEnded then s.dispose t else s

def addTunnel (s : Service) (x : Tunnel ProfileKey) : Service × TunnelId :=
  ({ s with tunnels := s.tunnels ++ [x] }, s.tunnels.length)

def addRequest (s : Service) (p : Profile) : Service × Nat :=
  ({ s with requests := s.requests ++ [{ profile := p }] }, s.requests.length)

def setStage (s : Service) (r : Nat) (stage : Stage) : Service :=
  match s.requests[r]? with
  | none => s
  | some x => { s with requests := s.requests.set r { x with stage } }

def stage? (s : Service) (r : Nat) : Option Stage := s.requests[r]?.map (·.stage)

def advance (s : Service) (cancelled : Bool) (r : Nat) : Option Service := do
  let x ← s.requests[r]?
  let k := x.profile.key
  match x.stage with
  | .entering =>
      if !x.profile.isPermitted then
        some (s.setStage r (.done (.error (.policyDenied x.profile.policy.id x.profile.target))))
      else if cancelled then some (s.setStage r (.done (.error .cancelled)))
      else some (s.setStage r .looking)
  | .looking =>
      match s.pool.lookup s.isOpen k with
      | some t => some (s.setStage r (.done (.ok t)))
      | none => some (s.setStage r .registering)
  | .registering =>
      let (pool, attempt) := s.pool.register s.isOpen k
      some ({ s with pool }.setStage r (.creating attempt))
  | .creating _ => none
  | .promoting attempt t =>
      some ({ s with pool := (s.pool.promote s.isOpen k t).1 }.setStage r (.settling attempt t))
  | .settling attempt t =>
      some ({ s with pool := s.pool.abandon k attempt }.setStage r (.announcing t))
  | .announcing t => some ((s.publish (.created t)).setStage r (.watching t))
  | .watching t =>
      let (s, due) ← s.watch k t
      if due.isEmpty then some (s.setStage r (.done (.ok t)))
      else some ((s.forget t k).setStage r (.telling t))
  | .telling t => some ((s.publish (.closed t)).setStage r (.done (.ok t)))
  | .done _ => none
  | .aborted => none

def created (s : Service) (r : Nat) (outcome : Except Failure TunnelId) : Option Service := do
  let x ← s.requests[r]?
  match x.stage, outcome with
  | .creating attempt, .ok t => some (s.setStage r (.promoting attempt t))
  | .creating attempt, .error reason =>
      some ({ s with pool := s.pool.abandon x.profile.key attempt }.setStage r (.done (.error reason)))
  | _, _ => none

def abort (s : Service) (r : Nat) : Option Service := do
  let x ← s.requests[r]?
  match x.stage with
  | .creating attempt =>
      some ({ s with pool := s.pool.abandon x.profile.key attempt }.setStage r .aborted)
  | _ => none

structure Sight where
  cancelled : Bool := false
  creation : Option (Except Failure TunnelId) := none
  due : Bool := false

/- Cancellation comes first, then the creation, then the time. -/
def Sight.outcome (limit : Duration) (sight : Sight) : Option (Except Failure TunnelId) :=
  if sight.cancelled then some (.error .cancelled)
  else match sight.creation with
    | some outcome => some outcome
    | none => if sight.due then some (.error (.timeout limit)) else none

/- Steps of a request until it waits or has ended; there are never more than eight. -/
def proceed (cancelled : Bool) (r : Nat) : Nat → Service → Service
  | 0, s => s
  | n + 1, s =>
      match s.advance cancelled r with
      | none => s
      | some s => proceed cancelled r n s

def steps : Nat := 8

def transport? (s : Service) (r : Nat) : Option TunnelId :=
  match s.stage? r with
  | some (.done (.ok t)) => some t
  | _ => none

def refusal? (s : Service) (r : Nat) : Option Refusal :=
  match s.stage? r with
  | some (.done (.error reason)) => some (.ofFailure reason)
  | _ => none

def release (s : Service) (r : Nat) : Option (Service × TunnelId) := do
  let x ← s.requests[r]?
  let t ← s.transport? r
  if x.released then none
  else some ({ s with requests := s.requests.set r { x with released := true } }, t)

def releaseTransport (s : Service) (r : Nat) : Option Service :=
  (s.release r).map fun (s, t) => s.dispose t

end Service
end TunnelRelay
