import TunnelRelay.Creation
import TunnelRelay.Pool.Service

/-! Tunnels that a service makes by creations of its own. A tunnel listens as soon as
its endpoint is bound, and its accept loop runs while the connection to the remote
side is tried. Whoever makes it refers to it alone: once its creation no longer holds
the endpoint, because it failed or was given up, the tunnel is closed. -/
namespace TunnelRelay

structure Making where
  creation : Creation
  tunnel : Option TunnelId := none

namespace Making

inductive Happening where
  | arrive (i : Incoming)
  | loop
  | act (index : Nat) (a : Client.Action)

inductive Turn where
  | poll (sight : Creation.Sight)
  | drop
  | outside (h : Happening)

def outcome (m : Making) : Option (Except Failure TunnelId) :=
  match m.creation.result, m.tunnel with
  | some (.error reason), _ => some (.error reason)
  | some (.ok _), some t => some (.ok t)
  | _, _ => none

end Making

namespace Service

def loopEnded (s : Service) (t : TunnelId) : Bool := s.tunnels[t]?.any (·.loopEnded)

def inUse (s : Service) : List Endpoint :=
  s.tunnels.filterMap fun x => if x.life.listening then x.endpoint else none

def listeningTunnel (settings : ListenSettings) (p : Profile) (endpoint : Endpoint) : Tunnel ProfileKey :=
  { Tunnel.make ⟨settings.loopbackOnly, p.policy.admits⟩ settings.bufferSize {} with endpoint := some endpoint }

def startMaking (s : Service) (settings : ListenSettings) (target : Locator → UInt16 → Except Failure Unit)
    (p : Profile) (w : Surroundings Endpoint) : Service × Making :=
  let creation := Creation.start settings target p w
  match creation.stage with
  | .bound endpoint =>
      let (s, t) := s.addTunnel (listeningTunnel settings p endpoint)
      (s, { creation, tunnel := some t })
  | _ => (s, { creation })

def follow (s : Service) (m : Making) (creation : Creation) : Service × Making :=
  let s := match m.tunnel with
    | some t => if m.creation.stage.held.isSome && creation.stage.held.isNone then s.dispose t else s
    | none => s
  (s, { m with creation })

/- One poll. A creation that failed has ended once the accept loop of its tunnel has. -/
def pollMaking (s : Service) (limit : Duration) (m : Making) (sight : Creation.Sight) : Service × Making :=
  let (s, m) := s.follow m (m.creation.poll limit sight)
  if m.tunnel.any s.loopEnded then s.follow m (m.creation.after limit .loopEnded) else (s, m)

def dropMaking (s : Service) (limit : Duration) (m : Making) : Service × Making :=
  s.follow m (m.creation.after limit .drop)

def changeTunnel (s : Service) (t : TunnelId) (f : Tunnel ProfileKey → Tunnel ProfileKey) : Service :=
  match s.tunnels[t]? with
  | none => s
  | some x => { s with tunnels := s.tunnels.set t (f x) }

def happen (s : Service) (m : Making) (h : Making.Happening) : Service :=
  match m.tunnel, h with
  | none, _ => s
  | some t, .arrive i => s.changeTunnel t (·.arrive i)
  | some t, .loop => s.pollLoop t
  | some t, .act index a => s.changeTunnel t fun x => (x.act index a).getD x

def turnMaking (limit : Duration) (w : Service × Making) : Making.Turn → Service × Making
  | .poll sight => w.1.pollMaking limit w.2 sight
  | .drop => w.1.dropMaking limit w.2
  | .outside h => (w.1.happen w.2 h, w.2)

structure Look where
  cancelled : Bool := false
  probe : Creation.Sight := {}
  due : Bool := false

def awaitMaking (s : Service) (limit : Duration) (m : Making) (look : Look) :
    Service × Making × Option (Except Failure TunnelId) :=
  let (s, m) := if look.cancelled then (s, m) else s.pollMaking limit m look.probe
  let creation := if look.cancelled then none else m.outcome
  let sight : Sight := { cancelled := look.cancelled, creation, due := look.due }
  match sight.outcome limit with
  | none => (s, m, none)
  | some outcome =>
      let (s, m) := if creation.isNone then s.dropMaking limit m else (s, m)
      (s, m, some outcome)

inductive WaitStep where
  | look (look : Look)
  | outside (h : Making.Happening)

def waitStep (limit : Duration) (w : (Service × Making) × Option (Except Failure TunnelId)) :
    WaitStep → (Service × Making) × Option (Except Failure TunnelId)
  | .look look =>
      match w.2 with
      | some _ => w
      | none =>
          let (s, m, outcome) := w.1.1.awaitMaking limit w.1.2 look
          ((s, m), outcome)
  | .outside h => ((w.1.1.happen w.1.2 h, w.1.2), w.2)

/- A tunnel for a remote side that is known already: `own` is what a bound socket says of its own endpoint. -/
def openTunnel (settings : ListenSettings) (p : Profile) (own : σ → Except IoError Endpoint) (w : Surroundings σ) :
    Search (Tunnel ProfileKey) :=
  let found := PortSearch.run settings p.localEndpoint w
  { asked := found.asked
    outcome := do
      let socket ← found.outcome
      let endpoint ← (own socket).mapError .io
      return listeningTunnel settings p endpoint }

end Service
end TunnelRelay
