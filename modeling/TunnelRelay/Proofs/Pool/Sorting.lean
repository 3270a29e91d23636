import TunnelRelay.Proofs.Pool.Labels
import TunnelRelay.Proofs.Pool.Representation

/-! The part of a service that belongs to one key: its requests, tunnels, teardowns and
attempts, each numbered anew by its place among those of the key, with its entry of the
pool and what was published about its tunnels. A run is sorted the same way: the steps of
other keys are left out. -/
namespace TunnelRelay
open Service (Request Stage Event)

/- The key that each request, tunnel, teardown and attempt belongs to, by its number. -/
structure Sorting where
  request : Labels
  tunnel : Labels
  teardown : Labels
  attempt : Labels

def Shared.Action.rename (request : Nat → Nat) (tunnel : TunnelId → TunnelId) (teardown : Nat → Nat) : Action → Action
  | .ask p => .ask p
  | .advance r cancelled => .advance (request r) cancelled
  | .deliver r t => .deliver (request r) (tunnel t)
  | .fail r reason => .fail (request r) reason
  | .abort r => .abort (request r)
  | .make admission bufferSize statistics => .make admission bufferSize statistics
  | .arrive t i => .arrive (tunnel t) i
  | .poll t => .poll (tunnel t)
  | .act t index a => .act (tunnel t) index a
  | .share t => .share (tunnel t)
  | .letGo t => .letGo (tunnel t)
  | .dispose t => .dispose (tunnel t)
  | .release r => .release (request r)
  | .leave r => .leave (request r)
  | .destroy t => .destroy (tunnel t)
  | .teardown i => .teardown (teardown i)

namespace Sorting
open Shared (Action)

section
variable (s : Sorting) (k : ProfileKey)

def requestAt (r : Nat) : Nat := s.request.place k r

def tunnelAt (t : TunnelId) : TunnelId := s.tunnel.place k t

def teardownAt (i : Nat) : Nat := s.teardown.place k i

def attemptAt (a : Nat) : Nat := s.attempt.place k a

def stageOf : Stage → Stage
  | .creating a => .creating (s.attemptAt k a)
  | .promoting a t => .promoting (s.attemptAt k a) (s.tunnelAt k t)
  | .settling a t => .settling (s.attemptAt k a) (s.tunnelAt k t)
  | .announcing t => .announcing (s.tunnelAt k t)
  | .watching t => .watching (s.tunnelAt k t)
  | .telling t => .telling (s.tunnelAt k t)
  | .done (.ok t) => .done (.ok (s.tunnelAt k t))
  | stage => stage

def requestOf (x : Request) : Request := { x with stage := s.stageOf k x.stage }

def entryOf : PoolEntry → PoolEntry
  | .pending a => .pending (s.attemptAt k a)
  | .live t => .live (s.tunnelAt k t)

def eventOf : Event → Event
  | .created t => .created (s.tunnelAt k t)
  | .closed t => .closed (s.tunnelAt k t)

def teardownOf (d : Teardown) : Teardown := { d with tunnel := s.tunnelAt k d.tunnel }

def poolOf (p : Pool) : Pool where
  entries := (p.entries.filter fun e => e.1 = k).map fun e => (e.1, s.entryOf k e.2)
  nextAttempt := s.attemptAt k p.nextAttempt

def serviceOf (v : Service) : Service where
  pool := s.poolOf k v.pool
  tunnels := s.tunnel.pick k v.tunnels
  requests := (s.request.pick k v.requests).map (s.requestOf k)
  published := (v.published.filter fun e => s.tunnel e.tunnel = k).map (s.eventOf k)
  alive := v.alive

def only (c : Shared) : Shared where
  service := s.serviceOf k c.service
  teardowns := (s.teardown.pick k c.teardowns).map (s.teardownOf k)
  references := (c.references.filter fun t => s.tunnel t = k).map (s.tunnelAt k)
  deliveries := (c.deliveries.filter fun d => s.request d.1 = k).map fun d => (s.requestAt k d.1, s.tunnelAt k d.2)

def actionOf : Action → Action := .rename (s.requestAt k) (s.tunnelAt k) (s.teardownAt k)

end

def keyOf (s : Sorting) (made : Nat) : Action → ProfileKey
  | .ask p => p.key
  | .advance r _ | .deliver r _ | .fail r _ | .abort r | .release r | .leave r => s.request r
  | .make .. => s.tunnel made
  | .arrive t _ | .poll t | .act t _ _ | .share t | .letGo t | .dispose t | .destroy t => s.tunnel t
  | .teardown i => s.teardown i

def made : Action → Nat
  | .make .. => 1
  | _ => 0

def actionsOf (s : Sorting) (k : ProfileKey) : Nat → List Action → List Action
  | _, [] => []
  | n, a :: rest =>
      let later := s.actionsOf k (n + made a) rest
      if s.keyOf n a = k then s.actionOf k a :: later else later

end Sorting

namespace Shared

def closes? (c : Shared) : Action → Option TunnelId
  | .dispose t | .destroy t => some t
  | .release r => c.service.transport? r
  | _ => none

/- The numbers that a step gives out carry the key of that step, and a tunnel is handed to a
request of its own key. -/
structure Allots (s : Sorting) (c : Shared) (a : Action) : Prop where
  request : ∀ p, a = .ask p → s.request c.service.requests.length = p.key
  tunnel : ∀ r t, a = .deliver r t → s.tunnel t = s.request r
  teardown : ∀ t, c.closes? a = some t → s.teardown c.teardowns.length = s.tunnel t
  attempt : ∀ r b x, a = .advance r b → c.service.requests[r]? = some x → x.stage = .registering →
    s.attempt c.service.pool.nextAttempt = x.profile.key

structure Sorted (s : Sorting) (c : Shared) : Prop where
  keyed : c.service.pool.Keyed
  requests : ∀ (r : Nat) x, c.service.requests[r]? = some x → s.request r = x.profile.key
  handed : ∀ (r : Nat) x t, c.service.requests[r]? = some x → x.stage.tunnel? = some t → s.tunnel t = x.profile.key
  attempts : ∀ (r : Nat) x a, c.service.requests[r]? = some x → x.stage.attempt? = some a →
    s.attempt a = x.profile.key ∧ a < c.service.pool.nextAttempt
  marks : ∀ k a, c.service.pool.entryAt? k = some (.pending a) → s.attempt a = k ∧ a < c.service.pool.nextAttempt
  lives : ∀ k t, c.service.pool.entryAt? k = some (.live t) → s.tunnel t = k
  handlers : ∀ t l h, c.service.life? t = some l → h ∈ l.handlers → h = s.tunnel t
  teardowns : ∀ (i : Nat) d, c.teardowns[i]? = some d → s.teardown i = s.tunnel d.tunnel
  deliveries : ∀ r t, (r, t) ∈ c.deliveries → s.tunnel t = s.request r ∧ r < c.service.requests.length
  due : ∀ (i : Nat) d h, c.teardowns[i]? = some d → h ∈ d.phase.due → h = s.tunnel d.tunnel

def Fits (s : Sorting) : Shared → List Action → Prop
  | _, [] => True
  | c, a :: rest => Allots s c a ∧ ∀ next ∈ c.step a, Fits s next rest

end Shared
end TunnelRelay
