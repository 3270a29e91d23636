import TunnelRelay.PortSearch
import TunnelRelay.Profile

/-! The creation of one tunnel: the remote side is asked for, a local endpoint is
bound, and one connection to the remote side is tried and given up at once. The
endpoint is held from the bind on and released as soon as the attempt fails or is
given up. A failed attempt waits for the accept loop of its closed tunnel to end. -/
namespace TunnelRelay

namespace Creation

inductive Stage where
  | bound (endpoint : Endpoint)
  | probing (endpoint : Endpoint)
  | closing (reason : Failure)
  | ready (endpoint : Endpoint)
  | failed (reason : Failure)
  | dropped
  deriving DecidableEq, Repr

inductive Event where
  | begun
  | connected
  | refused (reason : Failure)
  | timedOut
  | cancelled
  | loopEnded
  | drop
  deriving DecidableEq, Repr

structure Sight where
  cancelled : Bool := false
  tokenFirst : Bool := false
  connect : Option (Except Failure Unit) := none
  due : Bool := false
  deriving Inhabited

/- How the wait for the connection ends. A connection that is there counts even when its time is up. -/
def Sight.event (sight : Sight) : Option Event :=
  match sight.connect with
  | some (.ok ()) => some .connected
  | some (.error reason) => some (.refused reason)
  | none => if sight.due then some .timedOut else if sight.cancelled then some .cancelled else none

end Creation

structure Creation where
  targets : List (Locator × UInt16) := []
  asked : List Endpoint := []
  connects : Nat := 0
  made : Nat := 0
  givenUp : Nat := 0
  stage : Creation.Stage

namespace Creation

def bindFor (s : ListenSettings) (p : Profile) (w : Surroundings Endpoint) : Search Endpoint :=
  PortSearch.run s p.localEndpoint w

def start (s : ListenSettings) (target : Locator → UInt16 → Except Failure Unit) (p : Profile)
    (w : Surroundings Endpoint) : Creation :=
  let targets := [(p.instanceLocator, p.port)]
  match target p.instanceLocator p.port with
  | .error reason => { targets, stage := .failed reason }
  | .ok () =>
      let found := bindFor s p w
      match found.outcome with
      | .error reason => { targets, asked := found.asked, stage := .failed reason }
      | .ok endpoint => { targets, asked := found.asked, stage := .bound endpoint }

def Stage.after (timeout : Duration) : Stage → Event → Stage
  | bound endpoint, .begun => probing endpoint
  | bound _, .cancelled => closing .cancelled
  | bound _, .drop => dropped
  | probing endpoint, .connected => ready endpoint
  | probing _, .refused reason => closing reason
  | probing _, .timedOut => closing (.timeout timeout)
  | probing _, .cancelled => closing .cancelled
  | probing _, .drop => dropped
  | closing reason, .loopEnded => failed reason
  | closing _, .drop => dropped
  | stage, _ => stage

def after (c : Creation) (timeout : Duration) (e : Event) : Creation :=
  let c := match c.stage, e with
    | .bound _, .begun => { c with connects := c.connects + 1 }
    | .probing _, .connected => { c with made := c.made + 1, givenUp := c.givenUp + 1 }
    | _, _ => c
  { c with stage := c.stage.after timeout e }

def poll (c : Creation) (timeout : Duration) (sight : Sight) : Creation :=
  if sight.tokenFirst && sight.cancelled then c.after timeout .cancelled
  else
    let c := c.after timeout .begun
    match sight.event with
    | none => c
    | some e => c.after timeout e

def Stage.held : Stage → Option Endpoint
  | bound endpoint => some endpoint
  | probing endpoint => some endpoint
  | ready endpoint => some endpoint
  | _ => none

def Stage.result : Stage → Option (Except Failure Endpoint)
  | ready endpoint => some (.ok endpoint)
  | failed reason => some (.error reason)
  | _ => none

def result (c : Creation) : Option (Except Failure Endpoint) := c.stage.result

theorem startBindsOrFails (s : ListenSettings) (target : Locator → UInt16 → Except Failure Unit)
    (p : Profile) (w : Surroundings Endpoint) :
    (∃ endpoint, (start s target p w).stage = .bound endpoint) ∨
      ∃ reason, (start s target p w).stage = .failed reason := by
  unfold start
  dsimp only
  split
  · exact .inr ⟨_, rfl⟩
  · split
    · exact .inr ⟨_, rfl⟩
    · exact .inl ⟨_, rfl⟩

end Creation
end TunnelRelay
