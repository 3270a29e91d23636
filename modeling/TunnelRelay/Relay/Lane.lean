import TunnelRelay.Relay.Pump

/-! One direction of a relay with both of its streams: the bytes that the source
has sent and the pump has not read, and those that the sink has received. -/
namespace TunnelRelay

structure Lane where
  pending : List UInt8 := []
  ended : Bool := false
  pump : Pump := {}
  writes : List (List UInt8) := []
  shut : Bool := false
  deriving Repr

namespace Lane

def delivered (l : Lane) : List UInt8 := l.writes.reverse.flatten

inductive Move where
  | read (count : Nat)
  | write (count : Nat)
  | flush
  | shut
  | fault (error : IoError)
  deriving DecidableEq, Repr

/- What the pump is told; a read finds no more than was sent, and the end only after all of it. -/
def answer (l : Lane) : Move → Option Pump.Answer
  | .read 0 => if l.pending.isEmpty && l.ended then some (.read []) else none
  | .read count =>
      let bytes := l.pending.take count
      if bytes.length = count then some (.read bytes) else none
  | .write count => some (.wrote count)
  | .flush => some .flushed
  | .shut => some .shut
  | .fault error => some (.fault error)

def after (capacity : Nat) (l : Lane) (m : Move) : Option (Lane × Nat) := do
  let a ← l.answer m
  let pump ← l.pump.after capacity a
  let read := match a with
    | .read bytes => bytes.length
    | _ => 0
  some ({ l with
    pending := l.pending.drop read
    pump := pump
    writes := l.pump.written a :: l.writes
    shut := l.shut || (a == .shut) }, l.pump.counted a)

def send (l : Lane) (bytes : List UInt8) : Lane :=
  if l.ended then l else { l with pending := l.pending ++ bytes }

def finish (l : Lane) : Lane := { l with ended := true }

end Lane
end TunnelRelay
