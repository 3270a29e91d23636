import TunnelRelay.Pool.Service

/-! A service whose callers, tunnels and transports act at the same time, one step
of one of them after another in any order. Closing a tunnel is a teardown of single
steps: set the flag, cancel, release the socket, take the handlers, and for each
handler let the pool forget the tunnel and then publish its end. Only the teardown
that set the flag goes on. A handler can publish only while somebody still refers
to the tunnel, so the references are kept here: those of the pool, of requests and
their transports, of teardowns, and all others as a list. The pool itself lasts. -/
namespace TunnelRelay

namespace Teardown

inductive Phase where
  | flagging
  | cancelling
  | releasing
  | taking
  | forgetting (key : ProfileKey) (rest : List ProfileKey)
  | publishing (rest : List ProfileKey)
  | ended
  deriving DecidableEq, Repr

def Phase.notify : List ProfileKey → Phase
  | [] => ended
  | key :: rest => forgetting key rest

def Phase.working : Phase → Bool
  | flagging | ended => false
  | _ => true

end Teardown

structure Teardown where
  tunnel : TunnelId
  -- Whether it refers to its tunnel; one that begins because the last reference is gone does not.
  borrowed : Bool
  phase : Teardown.Phase := .flagging
  deriving DecidableEq, Repr

namespace Service

def Stage.tunnel? : Stage → Option TunnelId
  | promoting _ t | settling _ t | announcing t | watching t | telling t | done (.ok t) => some t
  | _ => none

def Stage.ended : Stage → Bool
  | done _ | aborted => true
  | _ => false

def Request.tunnel? (x : Request) : Option TunnelId :=
  match x.stage with
  | .done (.ok t) => if x.gone then none else some t
  | stage => stage.tunnel?

end Service

structure Shared where
  service : Service := {}
  teardowns : List Teardown := []
  references : List TunnelId := []
  deliveries : List (Nat × TunnelId) := []

namespace Shared

inductive Action where
  | ask (p : Profile)
  | advance (r : Nat) (cancelled : Bool)
  | deliver (r : Nat) (t : TunnelId)
  | fail (r : Nat) (reason : Failure)
  | abort (r : Nat)
  | make (admission : Admission) (bufferSize : UInt64) (statistics : Statistics)
  | arrive (t : TunnelId) (i : Incoming)
  | poll (t : TunnelId)
  | act (t : TunnelId) (index : Nat) (a : Client.Action)
  | share (t : TunnelId)
  | letGo (t : TunnelId)
  | dispose (t : TunnelId)
  | release (r : Nat)
  | leave (r : Nat)
  | destroy (t : TunnelId)
  | teardown (i : Nat)

def held (c : Shared) (t : TunnelId) : Bool :=
  c.references.contains t ||
    c.service.pool.entries.any (fun e => e.2 == .live t) ||
    c.service.requests.any (fun x => x.tunnel? == some t) ||
    c.teardowns.any fun d => d.borrowed && d.phase != .ended && d.tunnel == t

def withService (c : Shared) (s : Service) : Shared :=
  let fresh := s.published.drop c.service.published.length
  { c with service := s, references := c.references ++ fresh.map (·.tunnel) }

def begin (c : Shared) (t : TunnelId) (borrowed : Bool) : Shared :=
  { c with teardowns := c.teardowns ++ [{ tunnel := t, borrowed }] }

def changeTunnel (c : Shared) (t : TunnelId) (f : Tunnel ProfileKey → Option (Tunnel ProfileKey)) :
    Option Shared := do
  let x ← c.service.tunnels[t]?
  let x ← f x
  some { c with service := { c.service with tunnels := c.service.tunnels.set t x } }

def proceed (c : Shared) (d : Teardown) : Option (Service × Teardown.Phase) := do
  let x ← c.service.tunnels[d.tunnel]?
  let setLife := c.service.setLife d.tunnel
  match d.phase with
  | .flagging =>
      match x.life.flag with
      | (life, true) => some (setLife life, .cancelling)
      | (_, false) => some (c.service, .ended)
  | .cancelling => some (setLife x.life.cancel, .releasing)
  | .releasing => some (setLife x.life.release.1, .taking)
  | .taking =>
      let (life, due) := x.life.take
      some (setLife life, .notify due)
  | .forgetting key rest =>
      let pooled := c.service.pool.entryAt? key = some (.live d.tunnel)
      some (c.service.forget d.tunnel key, if pooled || c.held d.tunnel then .publishing rest else .notify rest)
  | .publishing rest => some (c.service.publish (.closed d.tunnel), .notify rest)
  | .ended => none

def stepTeardown (c : Shared) (i : Nat) : Option Shared := do
  let d ← c.teardowns[i]?
  let (s, phase) ← c.proceed d
  some { c.withService s with teardowns := c.teardowns.set i { d with phase } }

def step (c : Shared) : Action → Option Shared
  | .ask p => some { c with service := (c.service.addRequest p).1 }
  | .advance r cancelled => (c.service.advance cancelled r).map c.withService
  | .deliver r t =>
      if c.held t && t < c.service.tunnels.length then
        (c.service.created r (.ok t)).map fun s => { c with service := s, deliveries := c.deliveries ++ [(r, t)] }
      else none
  | .fail r reason => (c.service.created r (.error reason)).map c.withService
  | .abort r => (c.service.abort r).map c.withService
  | .make admission bufferSize statistics =>
      let (s, t) := c.service.addTunnel (.make admission bufferSize statistics)
      some { c with service := s, references := c.references ++ [t] }
  | .arrive t i => c.changeTunnel t fun x => some (x.arrive i)
  | .poll t => c.changeTunnel t fun x => some (Service.turn x)
  | .act t index a => c.changeTunnel t fun x => x.act index a
  | .share t => if c.held t then some { c with references := c.references ++ [t] } else none
  | .letGo t => if c.references.contains t then some { c with references := c.references.erase t } else none
  | .dispose t => if c.held t then some (c.begin t true) else none
  | .release r => do
      let x ← c.service.requests[r]?
      let (s, t) ← c.service.release r
      if x.gone then none else some ({ c with service := s }.begin t true)
  | .leave r => do
      let x ← c.service.requests[r]?
      if x.released then
        some { c with service := { c.service with requests := c.service.requests.set r { x with gone := true } } }
      else none
  | .destroy t => if !c.held t && t < c.service.tunnels.length then some (c.begin t false) else none
  | .teardown i => c.stepTeardown i

def run (c : Shared) : List Action → Option Shared
  | [] => some c
  | a :: rest => (c.step a).bind (run · rest)

def Reachable (c : Shared) : Prop := ∃ actions, run {} actions = some c

/- Every tunnel is made anew for the request that it is handed to. -/
def Fresh (c : Shared) : Prop := (c.deliveries.map Prod.snd).Nodup

instance (c : Shared) : Decidable c.Fresh := inferInstanceAs (Decidable (List.Nodup _))

structure Quiet (c : Shared) : Prop where
  requests : ∀ x ∈ c.service.requests, x.stage.ended = true
  teardowns : ∀ d ∈ c.teardowns, d.phase.working = false

def history (c : Shared) (t : TunnelId) : List Service.Event :=
  c.service.published.filter fun e => e.tunnel == t

def Action.teardown? : Action → Option Nat
  | teardown i => some i
  | _ => none

/- A teardown that has set the flag is not interrupted. -/
def Yields (c : Shared) (a : Action) : Prop :=
  ∀ i < c.teardowns.length, c.teardowns[i]?.any (·.phase.working) = true → a.teardown? = some i

instance (c : Shared) (a : Action) : Decidable (c.Yields a) := by
  unfold Yields
  infer_instance

def Undivided : Shared → List Action → Prop
  | _, [] => True
  | c, a :: rest => c.Yields a ∧ ∀ next ∈ c.step a, Undivided next rest

instance decidableUndivided : ∀ (c : Shared) (actions : List Action), Decidable (Undivided c actions)
  | _, [] => inferInstanceAs (Decidable True)
  | c, a :: rest =>
      have := fun next => decidableUndivided next rest
      inferInstanceAs (Decidable (c.Yields a ∧ ∀ next ∈ c.step a, Undivided next rest))

end Shared
end TunnelRelay
