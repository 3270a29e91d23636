import TunnelRelay.IoError

/-! A pump copies one stream of bytes into another: it reads a chunk, writes all
of it, flushes, and only then counts it. When the reader has ended it shuts the
writer down. What the two streams answer is up to them. -/
namespace TunnelRelay

namespace Pump

inductive Stage where
  | reading
  | writing (chunk left : List UInt8)
  | flushing (chunk : List UInt8)
  | ending
  | finished
  | failed (error : IoError)
  deriving DecidableEq, Repr

inductive Answer where
  | read (bytes : List UInt8)
  | wrote (count : Nat)
  | flushed
  | shut
  | fault (error : IoError)
  deriving DecidableEq, Repr

end Pump

structure Pump where
  stage : Pump.Stage := .reading
  total : Nat := 0
  deriving DecidableEq, Repr

namespace Pump

def writeZero : IoError := .plain .writeZero

/- The pump after an answer; none if the answer is none to its call. -/
def after (capacity : Nat) (p : Pump) (a : Answer) : Option Pump :=
  match p.stage, a with
  | .reading, .read bytes =>
      if capacity < bytes.length then none
      else if bytes.isEmpty then some { p with stage := .ending }
      else some { p with stage := .writing bytes bytes }
  | .writing chunk left, .wrote count =>
      if left.length < count then none
      else if count = 0 then some { p with stage := .failed writeZero }
      else if count = left.length then some { p with stage := .flushing chunk }
      else some { p with stage := .writing chunk (left.drop count) }
  | .flushing chunk, .flushed => some ⟨.reading, p.total + chunk.length⟩
  | .ending, .shut => some { p with stage := .finished }
  | .finished, _ => none
  | .failed _, _ => none
  | _, .fault error => some { p with stage := .failed error }
  | _, _ => none

def written (p : Pump) (a : Answer) : List UInt8 :=
  match p.stage, a with
  | .writing _ left, .wrote count => left.take count
  | _, _ => []

def counted (p : Pump) (a : Answer) : Nat :=
  match p.stage, a with
  | .flushing chunk, .flushed => chunk.length
  | _, _ => 0

def isOver (p : Pump) : Bool :=
  match p.stage with
  | .finished | .failed _ => true
  | _ => false

def hasFailed (p : Pump) : Bool :=
  match p.stage with
  | .failed _ => true
  | _ => false

end Pump
end TunnelRelay
