import TunnelRelay.Endpoint
import TunnelRelay.Relay.Lane

/-! The relay of one client: it waits to run, connects to the remote side, and
then pumps in both directions. A fault in either direction ends both; without
one the relay lasts until both directions have ended. Of the byte counters of a
relay, `received` counts what came from the remote side and `transmitted` what was
sent to it; both wrap at 2^64. -/
namespace TunnelRelay

structure Statistics where
  received : UInt64 := 0
  transmitted : UInt64 := 0
  deriving DecidableEq, Repr

inductive Direction where
  | toRemote
  | toClient
  deriving DecidableEq, Repr

namespace Statistics

def addReceived (s : Statistics) (bytes : UInt64) : Statistics :=
  { s with received := s.received + bytes }

def addTransmitted (s : Statistics) (bytes : UInt64) : Statistics :=
  { s with transmitted := s.transmitted + bytes }

def count (s : Statistics) : Direction → UInt64 → Statistics
  | .toRemote, bytes => s.addTransmitted bytes
  | .toClient, bytes => s.addReceived bytes

end Statistics

namespace Client

inductive Stage where
  | waiting
  | connecting
  | relaying
  | ended
  deriving DecidableEq, Repr

inductive Action where
  -- Its socket could not be set up.
  | broken
  | start
  | connected
  | refused
  | cut
  | move (d : Direction) (m : Lane.Move)
  | send (d : Direction) (bytes : List UInt8)
  | finish (d : Direction)
  deriving Repr

end Client

structure Client where
  peer : Endpoint
  stage : Client.Stage := .waiting
  toRemote : Lane := {}
  toClient : Lane := {}
  deriving Repr

namespace Client

def lane (c : Client) : Direction → Lane
  | .toRemote => c.toRemote
  | .toClient => c.toClient

def setLane (c : Client) (d : Direction) (l : Lane) : Client :=
  match d with
  | .toRemote => { c with toRemote := l }
  | .toClient => { c with toClient := l }

def closedFor (c : Client) (d : Direction) : Bool := (c.lane d).shut || c.stage = .ended

def settle (c : Client) : Client :=
  let failed := c.toRemote.pump.hasFailed || c.toClient.pump.hasFailed
  let finished := c.toRemote.pump.isOver && c.toClient.pump.isOver
  if failed || finished then { c with stage := .ended } else c

def after (capacity : Nat) (c : Client) : Action → Option (Client × Nat)
  | .broken => if c.stage = .waiting then some ({ c with stage := .ended }, 0) else none
  | .start => if c.stage = .waiting then some ({ c with stage := .connecting }, 0) else none
  | .connected => if c.stage = .connecting then some ({ c with stage := .relaying }, 0) else none
  | .refused => if c.stage = .connecting then some ({ c with stage := .ended }, 0) else none
  | .cut => if c.stage = .ended then none else some ({ c with stage := .ended }, 0)
  | .move d m =>
      if c.stage = .relaying then do
        let (l, counted) ← (c.lane d).after capacity m
        some ((c.setLane d l).settle, counted)
      else none
  | .send d bytes => some (c.setLane d ((c.lane d).send bytes), 0)
  | .finish d => some (c.setLane d (c.lane d).finish, 0)

def Action.direction : Action → Direction
  | .move d _ => d
  | _ => .toRemote

end Client
end TunnelRelay
