import Mathlib.Algebra.GroupWithZero.Nat
import TunnelRelay.Relay.Lane

/-! A pump alone with two streams that follow scripts. The source brings its bytes in the
pieces in which they arrive, as much of a piece at once as the buffer holds, and then it ends
or fails. The sink answers one call after another, takes less of a write than it is given, or
fails. What was called and answered, and what was counted, is kept in order. -/
namespace TunnelRelay

namespace Pump

inductive Call where
  | read
  | write (given : Nat)
  | flush
  | shutdown
  deriving DecidableEq, Repr

def Stage.call? : Stage → Option Call
  | reading => some .read
  | writing _ left => some (.write left.length)
  | flushing _ => some .flush
  | ending => some .shutdown
  | finished | failed _ => none

def result (p : Pump) : Option (Except IoError UInt64) :=
  match p.stage with
  | .finished => some (.ok (UInt64.ofNat p.total))
  | .failed error => some (.error error)
  | _ => none

end Pump

def Lane.Move.size : Lane.Move → Nat
  | .read count => count
  | _ => 0

structure Source where
  pieces : List (List UInt8)
  fault : Option IoError := none
  deriving Repr

namespace Source

def bytes (s : Source) : List UInt8 := s.pieces.flatten

/- A read with so much room. A piece without bytes brings nothing, not even the end. -/
def read (room : Nat) (s : Source) : Lane.Move × Source :=
  match s.pieces.dropWhile List.isEmpty with
  | piece :: rest => (.read (min room piece.length), { s with pieces := piece.drop room :: rest })
  | [] =>
      match s.fault with
      | none => (.read 0, { s with pieces := [] })
      | some error => (.fault error, { s with pieces := [] })

end Source

inductive Reply where
  | takes (most : Nat)
  | fails (error : IoError)
  deriving DecidableEq, Repr

/- A sink is its replies; one that has given all of them takes everything. -/
abbrev Sink := List Reply

namespace Sink

def answer (s : Sink) (whole : Lane.Move) : Lane.Move :=
  match s, whole with
  | .fails error :: _, _ => .fault error
  | .takes most :: _, .write count => .write (min most count)
  | _, whole => whole

def Steady (s : Sink) : Prop := ∀ r ∈ s, ∃ most, r = .takes (most + 1)

end Sink

structure Copying where
  source : Source
  sink : Sink
  lane : Lane
  log : List (Pump.Call × Lane.Move) := []
  counts : List Nat := []

namespace Copying

def begin (source : Source) (sink : Sink) : Copying :=
  { source, sink, lane := { pending := source.bytes, ended := source.fault.isNone } }

def ask (capacity : Nat) (c : Copying) : Pump.Call → Lane.Move × Source × Sink
  | .read =>
      let (m, source) := c.source.read capacity
      (m, source, c.sink)
  | .write given => (c.sink.answer (.write given), c.source, c.sink.tail)
  | .flush => (c.sink.answer .flush, c.source, c.sink.tail)
  | .shutdown => (c.sink.answer .shut, c.source, c.sink.tail)

def step (capacity : Nat) (c : Copying) : Option Copying := do
  let call ← c.lane.pump.stage.call?
  let (m, source, sink) := c.ask capacity call
  let (lane, counted) ← c.lane.after capacity m
  some { source, sink, lane
         log := c.log ++ [(call, m)]
         counts := if m = .flush then c.counts ++ [counted] else c.counts }

def run (capacity : Nat) : Nat → Copying → Copying
  | 0, c => c
  | n + 1, c =>
      match c.step capacity with
      | some c => run capacity n c
      | none => c

/- Three calls for each byte, one for the end and one to shut the sink down are enough. -/
def copy (capacity : Nat) (source : Source) (sink : Sink) : Copying :=
  run capacity (3 * source.bytes.length + 2) (begin source sink)

def readSize (log : List (Pump.Call × Lane.Move)) : Nat := (log.map fun entry => entry.2.size).sum

structure Rounds where
  size : Nat := 0
  taken : Nat := 0
  complete : List Nat := []
  deriving DecidableEq, Repr

namespace Rounds

def after (r : Rounds) : Lane.Move → Rounds
  | .read count => { r with size := count, taken := 0 }
  | .write count => { r with taken := r.taken + count }
  | .flush => if r.taken = r.size then { r with complete := r.complete ++ [r.size] } else r
  | _ => r

def ofLog (log : List (Pump.Call × Lane.Move)) : Rounds := log.foldl (fun r entry => r.after entry.2) {}

end Rounds

def Clean (log : List (Pump.Call × Lane.Move)) : Prop := ∀ entry ∈ log, entry.1 ≠ .shutdown ∧ entry.2 ≠ .read 0

end Copying
end TunnelRelay
