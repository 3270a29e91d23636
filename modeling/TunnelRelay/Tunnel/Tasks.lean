import TunnelRelay.Tunnel

/-! The tasks of a tunnel: its accept loop, and one for each client that was admitted. A
task runs undivided from one wait to the next, and tasks run in any order. The task of a
client waits for its token and for its relay at once. Whenever it runs it looks at both,
in either order, and it is over with the first that has come. -/
namespace TunnelRelay.Tunnel

/- A run of a client's task: which of the two it looks at first, and what the relay does until it
has to wait. -/
structure Turn where
  tokenFirst : Bool := false
  progress : List Client.Action := []

inductive Event where
  | arrive (i : Incoming)
  | accept
  | relay (index : Nat) (turn : Turn)
  | peer (index : Nat) (d : Direction) (bytes : Option (List UInt8))
  | close

def Event.tokenFirst : Event → Bool
  | relay _ turn => turn.tokenFirst
  | _ => true

def actAll (t : Tunnel η) (index : Nat) (actions : List Client.Action) : Tunnel η :=
  actions.foldl (fun t a => (t.act index a).getD t) t

def relay (t : Tunnel η) (index : Nat) (turn : Turn) : Tunnel η :=
  let progress := if turn.tokenFirst && t.life.cancelled then [] else turn.progress
  t.actAll index (progress ++ [.cut])

def happen (t : Tunnel η) : Event → Tunnel η
  | .arrive i => t.arrive i
  | .accept => t.poll
  | .relay index turn => t.relay index turn
  | .peer index d (some bytes) => t.actAll index [.send d bytes]
  | .peer index d none => t.actAll index [.finish d]
  | .close => { t with life := t.life.dispose.1 }

def delivered (t : Tunnel η) (index : Nat) (d : Direction) : Option (List UInt8) :=
  t.clients[index]?.map fun c => (c.lane d).delivered

def waiting (t : Tunnel η) : Nat := t.clients.countP (·.stage = .waiting)

structure Quiet (t t' : Tunnel η) : Prop where
  connects : t'.connects = t.connects
  statistics : t'.statistics = t.statistics
  delivered : ∀ index d, t'.delivered index d = t.delivered index d

end TunnelRelay.Tunnel
