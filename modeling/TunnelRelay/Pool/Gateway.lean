import TunnelRelay.Pool.Callers
import TunnelRelay.Pool.Making

/-! A shared service whose tunnels are made by creations of its own, as it runs in the
program. The first poll of a request that waits begins a creation with the request's
profile, and each later poll goes on with it, until the wait has an outcome or its caller
goes away. Whoever makes a tunnel refers to it until it is handed over or given up. All
else goes on beside that: each action here is at most one action of the shared service. -/
namespace TunnelRelay

structure Setup where
  settings : ListenSettings := {}
  limits : Nat → Duration

namespace Gateway

inductive Ending where
  | told (outcome : Except Failure TunnelId)
  | left

def Ending.action (r : Nat) : Ending → Shared.Action
  | told outcome => .ending r outcome
  | left => .abort r

structure Wait where
  making : Option Making := none
  ending : Option Ending := none

def Wait.tunnel? (w : Wait) : Option TunnelId := w.making.bind (·.tunnel)

def Wait.keeps (w : Wait) : Bool :=
  match w.ending with
  | none | some (.told (.ok _)) => true
  | _ => false

inductive Action where
  | act (a : Shared.Action)
  | begin (r : Nat) (target : Locator → UInt16 → Except Failure Unit) (around : Surroundings Endpoint)
  | look (r : Nat) (look : Service.Look)
  | leave (r : Nat)
  | conclude (r : Nat)

end Gateway

structure Gateway where
  shared : Shared := {}
  waits : Nat → Gateway.Wait := fun _ => {}

namespace Gateway

def tunnel? (g : Gateway) (r : Nat) : Option TunnelId := (g.waits r).tunnel?

def isCreating (g : Gateway) (r : Nat) : Bool :=
  match g.shared.service.stage? r with
  | some (.creating _) => true
  | _ => false

def isWaiting (g : Gateway) (r : Nat) : Bool := g.isCreating r && (g.waits r).ending.isNone

def isKept (g : Gateway) (t : TunnelId) : Bool :=
  (List.range g.shared.service.requests.length).any fun r =>
    g.isCreating r && g.tunnel? r == some t && (g.waits r).keeps

/- Only creations make tunnels, only waits end requests, and a maker's reference is its own. -/
def reserved (g : Gateway) : Shared.Action → Bool
  | .make .. | .deliver .. | .fail .. | .abort _ => true
  | .letGo t => g.isKept t && g.shared.references.count t ≤ 1
  | _ => false

def setWait (g : Gateway) (r : Nat) (w : Wait) : Gateway :=
  { g with waits := fun q => if q = r then w else g.waits q }

def share (g : Gateway) : Option Shared.Action → Option Gateway
  | none => some g
  | some a => (g.shared.step a).map fun shared => { g with shared }

def makingFor (settings : ListenSettings) (p : Profile) : Shared.Action :=
  .make ⟨settings.loopbackOnly, p.policy.admits⟩ settings.bufferSize {}

def beginMaking (u : Setup) (g : Gateway) (r : Nat) (p : Profile)
    (target : Locator → UInt16 → Except Failure Unit) (around : Surroundings Endpoint) : Option Gateway :=
  let creation := Creation.start u.settings target p around
  match creation.stage with
  | .bound _ =>
      let made : Making := { creation, tunnel := some g.shared.service.tunnels.length }
      (g.setWait r { making := some made }).share (makingFor u.settings p)
  | _ => some (g.setWait r { making := some { creation } })

def poll (g : Gateway) (limit : Duration) (m : Making) (sight : Creation.Sight) : Making :=
  let creation := m.creation.poll limit sight
  if m.tunnel.any g.shared.service.loopEnded then { m with creation := creation.after limit .loopEnded }
  else { m with creation }

def closing (m : Making) (creation : Creation) : Option Shared.Action :=
  if m.creation.stage.held.isSome && creation.stage.held.isNone then m.tunnel.map .dispose else none

def dropped (limit : Duration) (m : Making) : Making := { m with creation := m.creation.after limit .drop }

def lookAt (u : Setup) (g : Gateway) (r : Nat) (m : Making) (look : Service.Look) : Option Gateway :=
  let limit := u.limits r
  let polled := if look.cancelled then m else g.poll limit m look.probe
  let creation := if look.cancelled then none else polled.outcome
  let sight : Service.Sight := { cancelled := look.cancelled, creation, due := look.due }
  let outcome := sight.outcome limit
  let making := if outcome.isSome && creation.isNone then dropped limit polled else polled
  (g.setWait r { making := some making, ending := outcome.map .told }).share (closing m polled.creation)

def step (u : Setup) (g : Gateway) : Action → Option Gateway
  | .act a => if g.reserved a then none else g.share a
  | .begin r target around =>
      match g.shared.service.requests[r]?, (g.waits r).making with
      | some x, none => if g.isWaiting r then g.beginMaking u r x.profile target around else none
      | _, _ => none
  | .look r look =>
      if g.isWaiting r then
        match (g.waits r).making with
        | some m => g.lookAt u r m look
        | none => if look.cancelled then some (g.setWait r { ending := some (.told (.error .cancelled)) }) else none
      else none
  | .leave r =>
      if g.isWaiting r then
        some (g.setWait r { making := (g.waits r).making.map (dropped (u.limits r)), ending := some .left })
      else none
  | .conclude r => (g.waits r).ending.bind fun ending => g.share (ending.action r)

def run (u : Setup) (g : Gateway) (actions : List Action) : Option Gateway := actions.foldlM (step u) g

end Gateway
end TunnelRelay
