import TunnelRelay.Pool.Making
import TunnelRelay.Simulation.Creation

/-! Scenarios of a pool on a clock of their own. Requests are tasks; after every
step the tasks that were woken run in the order in which they were woken, until
all wait. Timers wake in the order of their times. -/
namespace TunnelRelay.Simulation

inductive Outcome where
  | succeed
  | pending
  | gated (reason : Option Failure)
  | fail (reason : Failure)
  | delay (millis : Nat)
  | closed
  | reuse (label : String)
  | refuse (reason : Failure)
  | bind (error : IoError)

structure Call where
  name : String
  request : Nat
  profile : Profile
  token : Option String
  timeout : Duration
  outcome : Outcome
  begun : Bool := false
  deadline : Nat := 0
  wakeAt : Option Nat := none
  gateOpen : Bool := false
  aborting : Bool := false
  ended : Bool := false
  consumed : Bool := false
  making : Option Making := none

inductive Task where
  | call (index : Nat)
  | loop (tunnel : TunnelId)
  | dispatcher
  deriving DecidableEq

inductive Receiver where
  | present | dispatching | gone
  deriving DecidableEq

structure EventView where
  event : Service.Event
  label : String
  isOpen : Bool
  pool : List String

structure PoolScenario where
  service : Service := {}
  listening : Option ListenSettings := none
  now : Nat := 0
  calls : List Call := []
  cancelled : List String := []
  ready : List Task := []
  labelled : List TunnelId := []
  origins : List Profile := []
  creations : Nat := 0
  connects : Nat := 0
  factory : Bool := true
  receiver : Receiver := .present
  queue : List Service.Event := []
  seen : Nat := 0
  finished : List Nat := []
  events : List EventView := []
  dispatched : List Service.Event := []
  dispatchEnded : Bool := false

namespace PoolScenario

def labelAt (index : Nat) : String := "t" ++ toString index

def label (s : PoolScenario) (t : TunnelId) : String := labelAt (s.labelled.findIdx (· == t))

def ofLabel (s : PoolScenario) (label : String) : Option TunnelId :=
  ((List.range s.labelled.length).find? fun i => labelAt i == label).bind (s.labelled[·]?)

def addLabel (s : PoolScenario) (t : TunnelId) : PoolScenario :=
  if s.labelled.contains t then s else { s with labelled := s.labelled ++ [t] }

def members (s : PoolScenario) : List String :=
  ((s.service.pool.members s.service.isOpen).map s.label).mergeSort fun a b => a ≤ b

def poolLabels (s : PoolScenario) : Option (List String) := if s.factory then some s.members else none

def openLabels (s : PoolScenario) : List String := (s.labelled.filter s.service.isOpen).map s.label

def sockets (s : PoolScenario) : Nat := s.service.tunnels.countP fun t => t.life.listening

def wake (s : PoolScenario) (t : Task) : PoolScenario :=
  if s.ready.contains t then s else { s with ready := s.ready ++ [t] }

def observe (s : PoolScenario) : PoolScenario :=
  let fresh := s.service.published.drop s.seen
  let s := { s with seen := s.service.published.length }
  fresh.foldl (fun s e =>
    let s := s.addLabel e.tunnel
    let view : EventView := ⟨e, s.label e.tunnel, s.service.isOpen e.tunnel, s.members⟩
    let s := { s with events := s.events ++ [view] }
    match s.receiver with
    | .gone => s
    | .present => { s with queue := s.queue ++ [e] }
    | .dispatching => { s with queue := s.queue ++ [e] }.wake .dispatcher) s

def withService (s : PoolScenario) (service : Service) : PoolScenario := { s with service }.observe

def dispose (s : PoolScenario) (t : TunnelId) : PoolScenario :=
  (s.withService (s.service.dispose t)).wake (.loop t)

def inFlight (s : PoolScenario) : Bool := s.calls.any fun c => !c.ended

def checkAlive (s : PoolScenario) : PoolScenario :=
  if s.factory || s.inFlight || !s.service.alive then s
  else
    let s := { s with service := { s.service with alive := false } }
    if s.receiver = .dispatching then s.wake .dispatcher else s

def setCall (s : PoolScenario) (i : Nat) (c : Call) : PoolScenario := { s with calls := s.calls.set i c }

def isHeld (s : PoolScenario) (t : TunnelId) : Bool :=
  (s.service.alive && s.service.pool.entries.any fun e => e.2 == .live t) ||
    s.queue.any (fun e => e.tunnel == t) ||
    s.calls.any (fun c =>
      if c.ended then !c.consumed && s.service.transport? c.request == some t
      else c.making.any fun m => m.tunnel == some t)

def makeTunnel (s : PoolScenario) (p : Profile) : PoolScenario × TunnelId :=
  let loopback := s.listening.all (·.loopbackOnly)
  let (service, t) := s.service.addTunnel (.make ⟨loopback, p.policy.admits⟩ 16384 {})
  ({ s with service, origins := s.origins ++ [p] }.wake (.loop t), t)

def pollScripted (s : PoolScenario) (c : Call) : PoolScenario × Option (Except Failure TunnelId) :=
  let fresh (s : PoolScenario) :=
    let (s, t) := s.makeTunnel c.profile
    (s.addLabel t, t)
  let succeed := let (s, t) := fresh s; (s, some (.ok t))
  match c.outcome with
  | .succeed => succeed
  | .fail reason => (s, some (.error reason))
  | .gated none => if c.gateOpen then succeed else (s, none)
  | .gated (some reason) => (s, if c.gateOpen then some (.error reason) else none)
  | .delay _ => if c.wakeAt.all (· ≤ s.now) then succeed else (s, none)
  | .closed =>
      let (s, t) := fresh s
      (s.dispose t, some (.ok t))
  | .reuse label =>
      match (s.ofLabel label).filter s.isHeld with
      | some t => (s, some (.ok t))
      | none => (s, some (.error .cancelled))
  | .pending | .refuse _ | .bind _ => (s, none)

def surroundings (c : Call) : Surroundings Endpoint where
  bind _ e := match c.outcome with
    | .bind error => .error (.ofBind e error)
    | _ => .ok e
  draw drawing i := (drawing * 32 + i) * 7919 + 104729
  cancelled _ := false

def connectEnd (s : PoolScenario) (c : Call) : Option (Except Failure Unit) :=
  match c.outcome with
  | .succeed => some (.ok ())
  | .fail reason => some (.error reason)
  | .gated none => if c.gateOpen then some (.ok ()) else none
  | .gated (some reason) => if c.gateOpen then some (.error reason) else none
  | .delay _ => if c.wakeAt.all (· ≤ s.now) then some (.ok ()) else none
  | _ => none

def startListening (settings : ListenSettings) (s : PoolScenario) (c : Call) : PoolScenario × Making :=
  let target : Locator → UInt16 → Except Failure Unit := fun _ _ => match c.outcome with
    | .refuse reason => .error reason
    | _ => .ok ()
  let (service, making) := s.service.startMaking settings target c.profile (surroundings c)
  match making.tunnel with
  | some t => ({ s with service, origins := s.origins ++ [c.profile] }.wake (.loop t), making)
  | none => (s, making)

def follow (s : PoolScenario) (service : Service) (before after : Making) : PoolScenario :=
  let s := s.withService service
  match before.tunnel with
  | some t => if before.creation.stage.held.isSome && after.creation.stage.held.isNone then s.wake (.loop t) else s
  | none => s

def pollListening (settings : ListenSettings) (s : PoolScenario) (i : Nat) (c : Call) :
    PoolScenario × Option (Except Failure TunnelId) :=
  let (s, before) := match c.making with
    | some making => (s, making)
    | none => s.startListening settings c
  let (service, making) := s.service.pollMaking c.timeout before { connect := s.connectEnd c, due := c.deadline ≤ s.now }
  let s := { s with connects := s.connects + (making.creation.connects - before.creation.connects) }
  ((s.follow service before making).setCall i { c with making := some making }, making.outcome)

def dropCreation (s : PoolScenario) (c : Call) : PoolScenario :=
  match c.making with
  | some making =>
      let (service, dropped) := s.service.dropMaking c.timeout making
      s.follow service making dropped
  | none => s

def proceed (cancelled : Bool) (r : Nat) : Nat → PoolScenario → PoolScenario
  | 0, s => s
  | n + 1, s =>
      match s.service.advance cancelled r with
      | none => s
      | some service => proceed cancelled r n (s.withService service)

def isDone (s : PoolScenario) (r : Nat) : Bool :=
  match s.service.stage? r with
  | some (.done _) => true
  | _ => false

def finishCall (s : PoolScenario) (i : Nat) : PoolScenario :=
  match s.calls[i]? with
  | none => s
  | some c =>
      if s.isDone c.request then
        ({ s with finished := s.finished ++ [i] }.setCall i { c with ended := true, making := none }).checkAlive
      else s

def tokenCancelled (s : PoolScenario) (c : Call) : Bool := c.token.any s.cancelled.contains

def completeCall (s : PoolScenario) (i : Nat) (c : Call) (outcome : Except Failure TunnelId) : PoolScenario :=
  match s.service.created c.request outcome with
  | none => s
  | some service => (proceed false c.request Service.steps (s.withService service)).finishCall i

def look (s : PoolScenario) (i : Nat) (c : Call) : PoolScenario × Call × Service.Sight :=
  if s.tokenCancelled c then (s, c, { cancelled := true })
  else
    let c := if c.begun then c else { c with
      begun := true
      deadline := s.now + ticks c.timeout
      wakeAt := match c.outcome with
        | .delay ms => some (s.now + ms)
        | _ => none }
    let s := if s.calls[i]?.any (·.begun) then s else { s with creations := s.creations + 1 }
    let s := s.setCall i c
    let (s, creation) := match s.listening with
      | some settings => pollListening settings s i c
      | none => pollScripted s c
    let c := (s.calls[i]?).getD c
    (s, c, { creation, due := c.deadline ≤ s.now })

def pollCreation (s : PoolScenario) (i : Nat) (c : Call) : PoolScenario :=
  let (s, c, sight) := s.look i c
  match sight.outcome c.timeout with
  | none => s
  | some outcome => (if sight.creation.isNone then s.dropCreation c else s).completeCall i c outcome

def pollCall (s : PoolScenario) (i : Nat) : PoolScenario :=
  match s.calls[i]? with
  | none => s
  | some c =>
      if c.ended then s
      else if c.aborting then
        let s := s.dropCreation c
        let s := { s with service := (s.service.abort c.request).getD s.service }
        (s.setCall i { c with ended := true, consumed := true, making := none }).checkAlive
      else
        let s := (proceed (s.tokenCancelled c) c.request Service.steps s).finishCall i
        match s.service.stage? c.request with
        | some (.creating _) => s.pollCreation i c
        | _ => s

def pollLoop (s : PoolScenario) (t : TunnelId) : PoolScenario :=
  if s.service.loopEnded t then s
  else
    let s := s.withService (s.service.pollLoop t)
    if s.service.loopEnded t then
      (List.range s.calls.length).foldl (fun s i =>
        match s.calls[i]? with
        | some c => if !c.ended && c.making.any (fun m => m.tunnel == some t) then s.wake (.call i) else s
        | none => s) s
    else s

def runDispatcher (s : PoolScenario) : PoolScenario :=
  { s with dispatched := s.dispatched ++ s.queue, queue := [], dispatchEnded := s.dispatchEnded || !s.service.alive }

def runTask (s : PoolScenario) : Task → PoolScenario
  | .call i => s.pollCall i
  | .loop t => s.pollLoop t
  | .dispatcher => s.runDispatcher

def runTasks : Nat → PoolScenario → PoolScenario
  | 0, s => s
  | n + 1, s =>
      match s.ready with
      | [] => s
      | task :: rest => runTasks n ({ s with ready := rest }.runTask task)

/- Every task runs until it waits. A request is polled at most four times and
its tunnel's loop twice before no more follows from what was woken. -/
def settle (s : PoolScenario) : PoolScenario :=
  runTasks (8 * (s.calls.length + s.service.tunnels.length + s.ready.length) + 16) s

def request (s : PoolScenario) (c : Call) : PoolScenario :=
  let (service, r) := s.service.addRequest c.profile
  { s with service, calls := s.calls ++ [{ c with request := r }] }.wake (.call s.calls.length)

def callOf (s : PoolScenario) (name : String) : Option (Nat × Call) :=
  ((List.range s.calls.length).zip s.calls).reverse.find? fun x => x.2.name == name

def release (s : PoolScenario) (name : String) : Option PoolScenario := do
  let (i, c) ← s.callOf name
  some (if c.ended then s else (s.setCall i { c with gateOpen := true }).wake (.call i))

def abort (s : PoolScenario) (name : String) : Option PoolScenario := do
  let (i, c) ← s.callOf name
  some (if c.ended then s else (s.setCall i { c with aborting := true }).wake (.call i))

def cancel (s : PoolScenario) (token : String) : PoolScenario :=
  let s := { s with cancelled := token :: s.cancelled }
  (List.range s.calls.length).foldl (fun s i =>
    match s.calls[i]? with
    | some c => if !c.ended && c.begun && c.token = some token then s.wake (.call i) else s
    | none => s) s

def dueAt (s : PoolScenario) (c : Call) : Option Nat :=
  if c.ended || !c.begun then none
  else
    let first := match c.wakeAt with
      | some at' => min at' c.deadline
      | none => c.deadline
    if first ≤ s.now then some first else none

def advance (s : PoolScenario) (ms : Nat) : PoolScenario :=
  let s := { s with now := s.now + ms }
  let due := ((List.range s.calls.length).zip s.calls).filterMap fun (i, c) => (s.dueAt c).map fun at' => (at', i)
  (due.mergeSort fun a b => a.1 ≤ b.1).foldl (fun s d => s.wake (.call d.2)) s

def transportOf (s : PoolScenario) (name : String) : Option (Nat × Call × TunnelId) := do
  let (i, c) ← s.callOf name
  if !c.ended || c.consumed then none
  else some (i, c, ← s.service.transport? c.request)

def giveBack (s : PoolScenario) (name : String) (consume : Bool) : Option PoolScenario := do
  let (i, c, t) ← s.transportOf name
  let s := match s.service.releaseTransport c.request with
    | some service => (s.withService service).wake (.loop t)
    | none => s
  some (s.setCall i { c with consumed := consume })

def tunnelOf (s : PoolScenario) (label : String) : Option TunnelId := (s.ofLabel label).filter s.isHeld

def acceptError (s : PoolScenario) (t : TunnelId) (errno : Nat) : PoolScenario :=
  match s.service.tunnels[t]? with
  | none => s
  | some x =>
      let tunnels := s.service.tunnels.set t (x.arrive (.fault (.os errno)))
      { s with service := { s.service with tunnels } }.wake (.loop t)

def dropFactory (s : PoolScenario) : PoolScenario := { s with factory := false }.checkAlive

inductive Received where
  | event (e : Service.Event)
  | empty
  | ended
  | noReceiver

def receive (s : PoolScenario) : PoolScenario × Received :=
  if s.receiver ≠ .present then (s, .noReceiver)
  else
    match s.queue with
    | e :: rest => ({ s with queue := rest }, .event e)
    | [] => (s, if s.service.alive then .empty else .ended)

def dropReceiver (s : PoolScenario) : Option PoolScenario :=
  if s.receiver = .present then some { s with receiver := .gone, queue := [] } else none

def dispatch (s : PoolScenario) : Option PoolScenario :=
  if s.receiver = .present then some ({ s with receiver := .dispatching }.wake .dispatcher) else none

def newStep (s : PoolScenario) : PoolScenario := { s with finished := [], events := [], dispatched := [] }

end PoolScenario
end TunnelRelay.Simulation
