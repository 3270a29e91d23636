import TunnelRelay.Config
import TunnelRelay.Failure

/-! The search for a local endpoint to listen on. A preferred endpoint with a
port comes first; every other attempt takes a port of the range that was not
tried before. Only a conflict over the port leads to another attempt, and only
while the budget lasts. What the binder, the random draws and the canceller do
may depend on everything asked so far. -/
namespace TunnelRelay

structure ListenSettings where
  attempts : Nat := 5
  ports : PortRange := .dynamic
  bufferSize : UInt64 := 16384
  loopbackOnly : Bool := true
  deriving DecidableEq, Repr

namespace ListenSettings

def withAttempts (s : ListenSettings) (attempts : UInt32) : ListenSettings :=
  { s with attempts := max 1 attempts.toNat }

def ofConfig (c : Config) : ListenSettings where
  attempts := max 1 c.portRetryAttempts.toNat
  ports := c.ephemeralPorts
  bufferSize := c.relayBufferSize
  loopbackOnly := c.loopbackOnly

end ListenSettings

/- What the search meets. Each part sees the endpoints that were asked for before. -/
structure Surroundings (σ : Type) where
  bind : (asked : List Endpoint) → Endpoint → Except Failure σ
  draw : (drawing : Nat) → Nat → Nat
  cancelled : (asked : List Endpoint) → Bool

structure Search (σ : Type) where
  asked : List Endpoint
  outcome : Except Failure σ

namespace PortSearch

def noFreePort : Failure :=
  .io (.described .addrNotAvailable "no untried port left in the ephemeral range")

def address (s : ListenSettings) (preferred : Option Endpoint) : Address :=
  match preferred with
  | some e => e.address
  | none => .v4 (if s.loopbackOnly then Ipv4.localhost else Ipv4.unspecified)

def forbidden (s : ListenSettings) (preferred : Option Endpoint) : Option Endpoint :=
  preferred.filter fun e => s.loopbackOnly && !e.isLoopback

def withPort (preferred : Option Endpoint) : Option Endpoint := preferred.filter fun e => e.port != 0

def tryFrom (s : ListenSettings) (a : Address) (w : Surroundings σ) :
    (left drawing : Nat) → Endpoint → (asked : List Endpoint) → Search σ
  | left, drawing, e, asked =>
      if w.cancelled asked then ⟨asked, .error .cancelled⟩
      else
        let asked' := asked ++ [e]
        match w.bind asked e with
        | .ok socket => ⟨asked', .ok socket⟩
        | .error failure =>
            match left with
            | 0 => ⟨asked', .error failure⟩
            | left + 1 =>
                if failure.isPortConflict then
                  match s.ports.next (asked'.map Endpoint.port) (w.draw drawing) with
                  | some port => tryFrom s a w left (drawing + 1) (.ofAddress a port) asked'
                  | none => ⟨asked', .error failure⟩
                else ⟨asked', .error failure⟩

def run (s : ListenSettings) (preferred : Option Endpoint) (w : Surroundings σ) : Search σ :=
  match forbidden s preferred with
  | some e => ⟨[], .error (.invalidEndpoint e)⟩
  | none =>
      let a := address s preferred
      match withPort preferred with
      | some e => tryFrom s a w (s.attempts - 1) 0 e []
      | none =>
          match s.ports.next [] (w.draw 0) with
          | some port => tryFrom s a w (s.attempts - 1) 1 (.ofAddress a port) []
          | none => ⟨[], .error noFreePort⟩

end PortSearch
end TunnelRelay
