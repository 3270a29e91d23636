import TunnelRelay.Config
import TunnelRelay.Profile
import TunnelRelay.Tunnel.Closing
import TunnelRelay.Tunnel.Tasks

/-! Scenarios of one tunnel with the ends of its clients in hand. Each connection
to the remote side follows a script. After every step the accept loop and all
relays run until they wait. -/
namespace TunnelRelay.Simulation

structure StreamFault where
  reads : Option Nat := none
  writes : Option Nat := none
  shutdown : Bool := false
  kind : IoKind := .other
  deriving Repr

inductive RelayScript where
  | succeed (fault : StreamFault)
  | hang
  | fail
  deriving Repr

structure Ends where
  index : Option Nat
  client : Bool := true
  remote : Bool := true
  clientTaken : Nat := 0
  remoteTaken : Nat := 0
  fault : StreamFault := {}
  reset : Bool := false

inductive Side where
  | client | remote
  deriving DecidableEq, Repr

def Side.sends : Side → Direction
  | client => .toRemote
  | remote => .toClient

def Side.other : Side → Side
  | client => remote
  | remote => client

structure TunnelScenario where
  tunnel : Tunnel Handler
  reachable : Bool
  scripts : List RelayScript
  held : Bool := true
  ends : List (String × Ends) := []
  notes : List HandlerNote := []

namespace TunnelScenario

def script (s : TunnelScenario) (attempt : Nat) : RelayScript :=
  (s.scripts[attempt]?.or s.scripts.getLast?).getD (.succeed {})

def brokenPipe : IoError := .plain .brokenPipe

def nextMove (capacity : Nat) (l : Lane) (e : Ends) (d : Direction) : Option Lane.Move :=
  let fault : Lane.Move := .fault (.plain e.fault.kind)
  let reads := if d = .toClient then e.fault.reads else none
  let writes := if d = .toRemote then e.fault.writes else none
  let sinkGone := if d = .toRemote then !e.remote else !e.client
  match l.pump.stage with
  | .reading =>
      if reads = some 0 then some fault
      else if d = .toRemote && e.reset then some (.fault (.plain .connectionReset))
      else if l.pending.isEmpty then (if l.ended then some (.read 0) else none)
      else some (.read (l.pending.take (min capacity (reads.getD capacity))).length)
  | .writing _ left =>
      if sinkGone then some (.fault brokenPipe)
      else if writes = some 0 then some fault
      else some (.write (min left.length (writes.getD left.length)))
  | .flushing _ => some .flush
  | .ending => if d = .toRemote && e.fault.shutdown then some fault else some .shut
  | .finished | .failed _ => none

def spend (f : StreamFault) (d : Direction) : Lane.Move → StreamFault
  | .read count => if d = .toClient then { f with reads := f.reads.map (· - count) } else f
  | .write count => if d = .toRemote then { f with writes := f.writes.map (· - count) } else f
  | _ => f

def pumpLane (d : Direction) : Nat → Tunnel Handler → Ends → Tunnel Handler × Ends
  | 0, t, e => (t, e)
  | n + 1, t, e =>
      let next := do
        let index ← e.index
        let c ← t.clients[index]?
        let m ← nextMove t.capacity (c.lane d) e d
        some (← t.act index (.move d m), spend e.fault d m)
      match next with
      | none => (t, e)
      | some (t, fault) => pumpLane d n t { e with fault }

/- Enough moves for all that a lane has pending: three for each byte, and its end. -/
def movesFor (t : Tunnel Handler) (e : Ends) (d : Direction) : Nat :=
  match e.index.bind (t.clients[·]?) with
  | some c => 3 * (c.lane d).pending.length + 8
  | none => 0

def pumpClient (t : Tunnel Handler) (e : Ends) : Tunnel Handler × Ends :=
  let (t, e) := pumpLane .toRemote (movesFor t e .toRemote) t e
  pumpLane .toClient (movesFor t e .toClient) t e

def startClient (s : TunnelScenario) (index : Nat) : TunnelScenario :=
  let actions := match s.script s.tunnel.connects with
    | .succeed _ => [Client.Action.start, .connected]
    | .hang => [.start]
    | .fail => [.start, .refused]
  { s with tunnel := s.tunnel.relay index { progress := actions } }

def settle (s : TunnelScenario) : TunnelScenario :=
  let t := Tunnel.pollAll s.tunnel.incoming.length s.tunnel
  let (life, notes) := if t.loopEnded then t.life.close else (t.life, [])
  let s := { s with tunnel := { t with life }, notes := s.notes ++ notes }
  if life.cancelled then
    { s with tunnel := (List.range t.clients.length).foldl (fun t i => t.relay i {}) s.tunnel }
  else
    let waiting := (List.range t.clients.length).filter fun i => t.clients[i]?.any fun c => c.stage = .waiting
    let s := waiting.foldl startClient s
    let (t, ends) := s.ends.foldr (fun (name, e) (t, ends) =>
      let (t, e) := pumpClient t e
      (t, (name, e) :: ends)) (s.tunnel, [])
    { s with tunnel := t, ends }

def close (s : TunnelScenario) : TunnelScenario :=
  let (life, notes) := s.tunnel.life.close
  settle { s with tunnel := { s.tunnel with life }, notes := s.notes ++ notes }

inductive Connected where
  | relayed | pending | dropped | refused
  deriving DecidableEq, Repr

def putEnds (s : TunnelScenario) (name : String) (e : Ends) : TunnelScenario :=
  { s with ends := (name, e) :: s.ends.filter fun x => x.1 != name }

def clientPort : UInt16 := 40000

def connect (s : TunnelScenario) (name : String) (peer : Address) : TunnelScenario × Connected :=
  if !(s.reachable && s.tunnel.life.listening) then (s, .refused)
  else
    let index := s.tunnel.clients.length
    let script := s.script s.tunnel.connects
    let s := settle { s with tunnel := s.tunnel.arrive (.client (.ofAddress peer clientPort)) }
    if s.tunnel.clients.length = index then
      (s.putEnds name { index := none, client := false, remote := false }, .dropped)
    else
      match script with
      | .succeed fault => (settle (s.putEnds name { index := some index, fault }), .relayed)
      | .hang => (s.putEnds name { index := some index, remote := false }, .pending)
      | .fail => (s.putEnds name { index := some index, client := false, remote := false }, .dropped)

def hasEnd (e : Ends) : Side → Bool
  | .client => e.client
  | .remote => e.remote

def unread (t : Tunnel Handler) (e : Ends) (side : Side) : List UInt8 × Bool :=
  match e.index.bind (t.clients[·]?) with
  | none => ([], true)
  | some c =>
      let l := c.lane side.other.sends
      let taken := if side = .client then e.clientTaken else e.remoteTaken
      (l.delivered.drop taken, c.closedFor side.other.sends)

structure Reading where
  bytes : List UInt8
  closed : Bool

def read (s : TunnelScenario) (name : String) (e : Ends) (side : Side) (limit : Option Nat) : TunnelScenario × Reading :=
  let (available, ended) := unread s.tunnel e side
  let bytes := match limit with
    | some n => available.take n
    | none => available
  let closed := match limit with
    | some n => bytes.length < n && ended
    | none => ended
  let e := match side with
    | .client => { e with clientTaken := e.clientTaken + bytes.length }
    | .remote => { e with remoteTaken := e.remoteTaken + bytes.length }
  (s.putEnds name e, ⟨bytes, closed⟩)

inductive Missing where
  | client | stream
  deriving DecidableEq, Repr

def endsOf (s : TunnelScenario) (name : String) (sides : List Side) : Except Missing Ends :=
  match s.ends.lookup name with
  | none => .error .client
  | some e => if sides.all (hasEnd e) then .ok e else .error .stream

def changeClient (s : TunnelScenario) (e : Ends) (a : Client.Action) : TunnelScenario :=
  settle { s with tunnel := (e.index.bind (s.tunnel.act · a)).getD s.tunnel }

def current (s : TunnelScenario) (name : String) (e : Ends) : Ends := (s.ends.lookup name).getD e

def send (s : TunnelScenario) (name : String) (side : Side) (bytes : List UInt8) :
    TunnelScenario × Except Missing Reading :=
  match s.endsOf name [side, side.other] with
  | .error missing => (s, .error missing)
  | .ok e =>
      let s := s.changeClient e (.send side.sends bytes)
      let (s, r) := s.read name (s.current name e) side.other (some bytes.length)
      (s, .ok r)

def finish (s : TunnelScenario) (name : String) (side : Side) : TunnelScenario × Except Missing Reading :=
  match s.endsOf name [side, side.other] with
  | .error missing => (s, .error missing)
  | .ok e =>
      let s := s.changeClient e (.finish side.sends)
      let (s, r) := s.read name (s.current name e) side.other none
      (s, .ok r)

def readEnd (s : TunnelScenario) (name : String) (side : Side) : TunnelScenario × Except Missing Reading :=
  match s.endsOf name [side] with
  | .error missing => (s, .error missing)
  | .ok e =>
      let (s, r) := s.read name e side none
      (s, .ok r)

def abandon (s : TunnelScenario) (name : String) (side : Side) (reset : Bool) :
    TunnelScenario × Except Missing Reading :=
  match s.ends.lookup name with
  | none => (s, .error .client)
  | some e =>
      let s := if hasEnd e side then
          let gone := match side with
            | .client => { e with client := false, reset }
            | .remote => { e with remote := false }
          (s.putEnds name gone).changeClient gone (.finish side.sends)
        else s
      s.readEnd name side.other

def acceptError (s : TunnelScenario) (errno : Nat) : TunnelScenario :=
  settle { s with tunnel := s.tunnel.arrive (.fault (.os errno)) }

def onClosed (s : TunnelScenario) (h : Handler) : TunnelScenario :=
  let (life, notes) := s.tunnel.life.onClosed h
  { s with tunnel := { s.tunnel with life }, notes := s.notes ++ notes }

end TunnelScenario

def echoed (sent : String) : List UInt8 := ("hi" ++ sent).toUTF8.toList

def echoTunnel : Tunnel Handler :=
  .make ⟨true, Policy.allowAll.admits⟩ ({} : Config).relayBufferSize {}

def returned (sent : List UInt8) : List UInt8 :=
  let s : TunnelScenario := { tunnel := echoTunnel, reachable := true, scripts := [] }
  let (s, _) := s.connect "client" (.v4 .localhost)
  match s.send "client" .client sent with
  | (_, .error _) => []
  | (s, .ok there) =>
      match (s.send "client" .remote there.bytes).2 with
      | .error _ => []
      | .ok back => back.bytes

end TunnelRelay.Simulation
