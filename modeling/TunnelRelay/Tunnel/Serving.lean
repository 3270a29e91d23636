import TunnelRelay.Tunnel
import TunnelRelay.Tunnel.Closing

/-! A tunnel and its holders. Its relay task takes one turn of the accept loop after another
and closes the tunnel once the loop has ended. Holders register handlers, close the tunnel,
or close it and wait for that task. Every task runs undivided from one wait to the next, so
the token that a turn finds at its beginning is the one at its end. -/
namespace TunnelRelay

namespace Incoming

def isFatal : Incoming → Bool
  | client _ => false
  | fault error => !error.isTransient

def admitted (a : Admission) : Incoming → Option Endpoint
  | client peer => if a.allows peer then some peer else none
  | fault _ => none

end Incoming

def Tunnel.result? (t : Tunnel η) : Option Incoming :=
  if t.loopEnded || t.life.cancelled || !t.life.listening then none else t.incoming.head?

structure Serving where
  tunnel : Tunnel Handler
  stopped : Bool := false
  notes : List HandlerNote := []
  closers : List Bool := []
  arrived : List Incoming := []
  taken : List Incoming := []

namespace Serving

inductive Event where
  | arrive (i : Incoming)
  | turn
  | act (index : Nat) (a : Client.Action)
  | register (h : Handler)
  | dispose
  | close
  | look (closer : Nat)

def begin (admission : Admission) (bufferSize : UInt64) (statistics : Statistics) (endpoint : Endpoint) : Serving :=
  { tunnel := { Tunnel.make admission bufferSize statistics with endpoint := some endpoint } }

def arrive (s : Serving) (i : Incoming) : Serving :=
  { s with
    tunnel := s.tunnel.arrive i
    arrived := if s.tunnel.life.listening then s.arrived ++ [i] else s.arrived }

def dispose (s : Serving) : Serving :=
  let (life, notes) := s.tunnel.life.close
  { s with tunnel := { s.tunnel with life }, notes := s.notes ++ notes }

/- A turn after which the loop has ended is the last thing the relay task does but closing the tunnel. -/
def turn (s : Serving) : Serving :=
  let s := { s with tunnel := s.tunnel.poll, taken := s.taken ++ s.tunnel.result?.toList }
  if s.tunnel.loopEnded then { s.dispose with stopped := true } else s

def register (s : Serving) (h : Handler) : Serving :=
  let (life, notes) := s.tunnel.life.onClosed h
  { s with tunnel := { s.tunnel with life }, notes := s.notes ++ notes }

def happen (s : Serving) : Event → Option Serving
  | .arrive i => some (s.arrive i)
  | .turn => if s.stopped then none else some s.turn
  | .act index a => (s.tunnel.act index a).map fun tunnel => { s with tunnel }
  | .register h => some (s.register h)
  | .dispose => some s.dispose
  | .close => some { s.dispose with closers := s.closers ++ [s.stopped] }
  | .look closer =>
      if s.closers[closer]? = some false then some { s with closers := s.closers.set closer s.stopped } else none

def run (s : Serving) (events : List Event) : Option Serving := events.foldlM happen s

def registered (events : List Event) : List Handler :=
  events.filterMap fun
    | .register h => some h
    | _ => none

def begun (index : Nat) (events : List Event) : Nat :=
  events.countP fun
    | .act i .start => i = index
    | _ => false

def Event.closes : Event → Bool
  | .dispose | .close => true
  | _ => false

end Serving
end TunnelRelay
