import TunnelRelay.Creation
import TunnelRelay.Network

/-! Scenarios of listening, where endpoints that were bound can be named and asked for
again after their release; and of one creation on a clock of its own: what each bind
answers, and when the connection to the remote side ends. -/
namespace TunnelRelay.Simulation

structure Binding where
  network : Network
  named : List (String × Endpoint) := []
  held : List (String × Endpoint) := []

namespace Binding

def bind (b : Binding) (name : String) (e : Endpoint) : Binding × Except Failure Endpoint :=
  match b.network.bind e with
  | .error failure => (b, .error failure)
  | .ok (bound, network) =>
      let network := match b.held.lookup name with
        | some old => network.release old
        | none => network
      (⟨network, (name, bound) :: b.named, (name, bound) :: b.held.filter fun h => h.1 != name⟩, .ok bound)

def release (b : Binding) (name : String) : Binding × Bool :=
  match b.held.lookup name with
  | none => (b, false)
  | some e => ({ b with network := b.network.release e, held := b.held.filter fun h => h.1 != name }, true)

end Binding

inductive ConnectScript where
  | succeed
  | hang
  | fail (reason : Failure)
  deriving DecidableEq, Repr

def ticks (d : Duration) : Nat :=
  if 4611686018427387904 ≤ d.secs.toNat then 30 * 365 * 86400 * 1000 else (d.totalNanos + 999999) / 1000000

structure CreationScenario where
  settings : ListenSettings
  profile : Profile
  timeout : Duration := .ofSecs 10
  cancelled : Bool := false
  cancelAtBind : Option Nat := none
  probes : Bool := true
  binds : List (Endpoint → Except Failure Unit) := []
  network : Option Network := none
  refusal : Option Failure := none
  connect : ConnectScript := .succeed
  delay : Duration := .zero
  connectCancels : Bool := false

structure CreationReport where
  creation : Creation
  elapsed : Nat

namespace CreationScenario

def answerOf (binds : List (Endpoint → Except Failure Unit)) (attempt : Nat) (e : Endpoint) : Except Failure Unit :=
  match binds[attempt]?.or binds.getLast? with
  | some answer => answer e
  | none => .ok ()

def surroundings (s : CreationScenario) : Surroundings Endpoint where
  bind asked e :=
    match s.network with
    | some n => (n.bind e).map Prod.fst
    | none => (answerOf s.binds asked.length e).map fun _ => e
  draw drawing i := (drawing * 32 + i) * 7919 + 104729
  cancelled asked := s.cancelled || s.cancelAtBind.any (· ≤ asked.length)

/- What is seen when the probe ends, and after how many milliseconds. A connection that is not
there at once is given up at once if no time is allowed, even one that cancels. -/
def probe (s : CreationScenario) : Creation.Sight × Nat :=
  let limit := ticks s.timeout
  let wait := ticks s.delay
  let connect : Option (Except Failure Unit) := match s.connect with
    | .succeed => some (.ok ())
    | .fail reason => some (.error reason)
    | .hang => none
  let hangs := s.connect == .hang
  if !hangs && wait = 0 then ({ connect }, 0)
  else if s.connectCancels && limit != 0 then ({ cancelled := true }, 0)
  else if !hangs && wait ≤ limit then ({ connect }, wait)
  else ({ due := true }, limit)

def run (s : CreationScenario) : CreationReport :=
  if s.probes then
    let target : Locator → UInt16 → Except Failure Unit := fun _ _ =>
      match s.refusal with
      | some reason => .error reason
      | none => .ok ()
    let started := Creation.start s.settings target s.profile s.surroundings
    match started.stage with
    | .bound _ =>
        let (sight, elapsed) := s.probe
        ⟨(started.poll s.timeout sight).after s.timeout .loopEnded, elapsed⟩
    | _ => ⟨started, 0⟩
  else
    let found := Creation.bindFor s.settings s.profile s.surroundings
    ⟨{ asked := found.asked, stage := match found.outcome with
        | .ok endpoint => .ready endpoint
        | .error reason => .failed reason }, 0⟩

def candidates (s : CreationScenario) : List UInt16 :=
  s.settings.ports.ports.filter fun p => p != 0 && s.profile.localEndpoint.all fun e => e.port != p

def exhausted (s : CreationScenario) (asked : List Endpoint) : Option (List UInt16) :=
  let tried := sortedPorts (asked.map Endpoint.port)
  if s.candidates.length ≤ tried.length && s.candidates.all tried.contains then some tried else none

end CreationScenario
end TunnelRelay.Simulation
