import TunnelRelay.Tunnel

/-! A tunnel step by step. Its socket, its accept loop, the two ends and the two pumps of
each client, and whoever registers handlers or closes it take steps in any order; each step
is one call that some task makes and has answered. A run is judged by what the clients did
themselves: the actions of one client, what its ends sent, and the moves of its pumps. -/
namespace TunnelRelay

structure Chunks where
  completed : Nat := 0
  current : Nat := 0
  deriving DecidableEq, Repr

namespace Chunks

def after (k : Chunks) : Lane.Move → Chunks
  | .read count => { k with current := count }
  | .flush => ⟨k.completed + k.current, 0⟩
  | _ => k

def ofMoves (moves : List Lane.Move) : Chunks := moves.foldl after {}

end Chunks

/- A stream that takes nothing of a write fails the pump as an error does. -/
def Lane.Move.fails : Move → Bool
  | .fault _ | .write 0 => true
  | _ => false

namespace Client

def run (capacity : Nat) (c : Client) (actions : List Action) : Option Client :=
  actions.foldlM (fun c a => (c.after capacity a).map Prod.fst) c

def Action.ends (d : Direction) : Action → Bool
  | .finish d' => d' = d
  | _ => false

def Action.fails : Action → Bool
  | .broken | .refused => true
  | .move _ m => m.fails
  | _ => false

def said (d : Direction) : List Action → List UInt8
  | [] => []
  | .send d' bytes :: rest => if d' = d then bytes ++ said d rest else said d rest
  | .finish d' :: rest => if d' = d then [] else said d rest
  | _ :: rest => said d rest

def moves (d : Direction) (actions : List Action) : List Lane.Move :=
  actions.filterMap fun
    | .move d' m => if d' = d then some m else none
    | _ => none

def chunks (d : Direction) (actions : List Action) : Chunks := .ofMoves (moves d actions)

end Client

namespace Tunnel

inductive Step (η : Type) where
  | arrive (i : Incoming)
  | accept
  | act (index : Nat) (a : Client.Action)
  | register (handler : η)
  | flag
  | cancel
  | release
  | take

/- Only a tunnel whose flag is set is cancelled and loses its socket and its handlers. -/
def step (t : Tunnel η) : Step η → Option (Tunnel η)
  | .arrive i => some (t.arrive i)
  | .accept => some t.poll
  | .act index a => t.act index a
  | .register handler => some { t with life := (t.life.register handler).1 }
  | .flag => some { t with life := t.life.flag.1 }
  | .cancel => if t.life.closed then some { t with life := t.life.cancel } else none
  | .release => if t.life.closed then some { t with life := t.life.release.1 } else none
  | .take => if t.life.closed then some { t with life := t.life.take.1 } else none

def run (t : Tunnel η) (steps : List (Step η)) : Option (Tunnel η) := steps.foldlM step t

def own (index : Nat) (steps : List (Step η)) : List Client.Action :=
  steps.filterMap fun
    | .act i a => if i = index then some a else none
    | _ => none

def completed (d : Direction) (steps : List (Step η)) : (clients : Nat) → Nat
  | 0 => 0
  | clients + 1 => completed d steps clients + (Client.chunks d (own clients steps)).completed

def bytes (d : Direction) : List Client → Nat
  | [] => 0
  | c :: rest => (c.lane d).delivered.length + bytes d rest

def next? (t : Tunnel η) : Option Endpoint :=
  if t.loopEnded then none
  else if t.life.cancelled || !t.life.listening then none
  else match t.incoming with
    | .client peer :: _ => some peer
    | _ => none

def taken (t : Tunnel η) : Step η → List Endpoint
  | .accept => t.next?.toList
  | _ => []

def accepted (t : Tunnel η) : List (Step η) → List Endpoint
  | [] => []
  | s :: rest => t.taken s ++ match t.step s with
    | none => []
    | some t => t.accepted rest

end Tunnel
end TunnelRelay
