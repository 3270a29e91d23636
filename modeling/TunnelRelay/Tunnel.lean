import TunnelRelay.Capability
import TunnelRelay.Relay.Client
import TunnelRelay.Tunnel.Lifecycle

/-! A tunnel at work: its accept loop, the relays of its clients, and its
counters. The loop takes the results of the listening socket one by one. It ends
when the tunnel is closed or when accepting fails for good; a loop that ends
closes the tunnel. The relay of a client goes on by itself until it sees that the
tunnel was cancelled. -/
namespace TunnelRelay

inductive Incoming where
  | client (peer : Endpoint)
  | fault (error : IoError)
  deriving DecidableEq, Repr

/- Failures to accept that say nothing about the listening socket. -/
def IoError.isTransient (e : IoError) : Bool :=
  match e.kind with
  | .connectionAborted | .connectionReset | .interrupted | .wouldBlock => true
  | _ => false

structure Admission where
  loopbackOnly : Bool
  admits : Endpoint → Bool

def Admission.allows (a : Admission) (peer : Endpoint) : Bool :=
  (!a.loopbackOnly || peer.isLoopback) && a.admits peer

structure Tunnel (η : Type) where
  admission : Admission
  capacity : Nat
  endpoint : Option Endpoint := none
  life : Lifecycle η := {}
  statistics : Statistics := {}
  loopEnded : Bool := false
  incoming : List Incoming := []
  clients : List Client := []
  connects : Nat := 0

namespace Tunnel

def make (admission : Admission) (bufferSize : UInt64) (statistics : Statistics) : Tunnel η :=
  { admission, capacity := max 1 bufferSize.toNat, statistics }

def arrive (t : Tunnel η) (i : Incoming) : Tunnel η :=
  if t.life.listening then { t with incoming := t.incoming ++ [i] } else t

def poll (t : Tunnel η) : Tunnel η :=
  if t.loopEnded then t
  else if t.life.cancelled || !t.life.listening then { t with loopEnded := true }
  else
    match t.incoming with
    | [] => t
    | .fault error :: rest =>
        if error.isTransient then { t with incoming := rest }
        else { t with incoming := rest, loopEnded := true }
    | .client peer :: rest =>
        if t.admission.allows peer then { t with incoming := rest, clients := t.clients ++ [{ peer }] }
        else { t with incoming := rest }

def pollAll : Nat → Tunnel η → Tunnel η
  | 0, t => t.poll
  | n + 1, t => if t.incoming.isEmpty || t.loopEnded then t.poll else pollAll n t.poll

/- An action of a client; its cancellation is only seen once there is one. -/
def act (t : Tunnel η) (index : Nat) (a : Client.Action) : Option (Tunnel η) := do
  let c ← t.clients[index]?
  if a matches .cut && !t.life.cancelled then none
  else
    let (c, counted) ← c.after t.capacity a
    some { t with
      clients := t.clients.set index c
      statistics := t.statistics.count a.direction (UInt64.ofNat counted)
      connects := if a matches .start then t.connects + 1 else t.connects }

end Tunnel
end TunnelRelay
