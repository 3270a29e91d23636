import Mathlib.Data.List.Basic
import TunnelRelay.Config.Files
import TunnelRelay.Pool.Making
import TunnelRelay.Proofs.CheckedSearch
import TunnelRelay.Proofs.Pool.Growth
import TunnelRelay.Proofs.Pool.Making
import TunnelRelay.Proofs.PortSearch

/-! Tunnels opened with settings that are valid. The binder is asked at least once and no more often
than the settings allow, what it answers last is what comes of it, and a port of the range is found
unless the binder denies as many as may be asked for. -/
namespace TunnelRelay.Opening
open PortSearch

variable {σ : Type} {s : ListenSettings} {preferred : Option Endpoint} {asked : List Endpoint} {w : Surroundings σ}

variable {c : Config} {p : Profile} {own : σ → Except IoError Endpoint}

def tunnelOf (c : Config) (p : Profile) (own : σ → Except IoError Endpoint) (socket : σ) :
    Except Failure (Tunnel ProfileKey) :=
  match own socket with
  | .ok endpoint => .ok (Service.listeningTunnel (.ofConfig c) p endpoint)
  | .error error => .error (.io error)

theorem startOpens {settings : ListenSettings} {target : Locator → UInt16 → Except Failure Unit} (s : Service)
    (w : Surroundings Endpoint) (admitted : target p.instanceLocator p.port = .ok ()) :
    (s.startMaking settings target p w).2.creation.asked = (Service.openTunnel settings p .ok w).asked ∧
      ((s.startMaking settings target p w).2.tunnel.bind fun t => (s.startMaking settings target p w).1.tunnels[t]?) =
        (Service.openTunnel settings p .ok w).outcome.toOption := by
  cases bound : (Creation.bindFor settings p w).outcome with
  | error reason =>
    have outcome : (run settings p.localEndpoint w).outcome = .error reason := bound
    rw [Service.startUnbound admitted bound]
    simp only [Service.openTunnel, outcome]
    exact ⟨rfl, rfl⟩
  | ok e =>
    have outcome : (run settings p.localEndpoint w).outcome = .ok e := bound
    rw [Service.startBound admitted bound]
    simp only [Service.openTunnel, outcome]
    exact ⟨rfl, Service.grownTunnel⟩

theorem acceptable (loopback : ∀ e, p.localEndpoint = some e → e.isLoopback = true ∨ c.loopbackOnly = false) :
    forbidden (.ofConfig c) p.localEndpoint = none := by
  rw [forbidden, Option.filter_eq_none_iff]
  intro e preferred
  rcases loopback e preferred with inside | all
  · simp [inside]
  · simp [ListenSettings.ofConfig, all]

structure Counted (r : PortRange) : Prop where
  members : ∀ port, port ∈ r.ports ↔ r.first ≤ port ∧ port ≤ r.last
  apart : r.ports.Nodup
  size : r.size = r.ports.length
  empty : r.isEmpty = true ↔ r.ports.length = 0
  checked : r.sizeChecked = .ok r.size

end TunnelRelay.Opening
