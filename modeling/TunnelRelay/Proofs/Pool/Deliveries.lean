import TunnelRelay.Proofs.Pool.Growth

/-! Which tunnels were handed to which requests. A request that has taken a tunnel
over was handed it, and whatever was handed to a request stays the tunnel of that
request, its result included. -/
namespace TunnelRelay.Shared
open Service (Request Stage)

structure Handed (c : Shared) : Prop where
  known : ∀ r t, (r, t) ∈ c.deliveries → t < c.service.tunnels.length
  kept : ∀ r t, (r, t) ∈ c.deliveries → ∃ x, c.service.requests[r]? = some x ∧ x.stage.tunnel? = some t
  noted : ∀ r x, c.service.requests[r]? = some x → ∀ t, x.stage.accepted? = some t → (r, t) ∈ c.deliveries

theorem acceptedTunnel {stage : Stage} {t : TunnelId} (accepted : stage.accepted? = some t) :
    stage.tunnel? = some t := by
  cases stage <;> simp_all [Stage.accepted?, Stage.tunnel?]

theorem handedKnown {c c' : Shared} {a : Action} (step : Step c a c') (handed : Handed c) :
    ∀ r t, (r, t) ∈ c'.deliveries → t < c'.service.tunnels.length := by
  intro r t mem
  rcases deliveryCame step mem with old | ⟨-, known, -⟩
  · exact Nat.lt_of_lt_of_le (handed.known r t old) (tunnelsGrow step)
  · exact Nat.lt_of_lt_of_le known (tunnelsGrow step)

theorem handedKept {c c' : Shared} {a : Action} (step : Step c a c') (handed : Handed c) :
    ∀ r t, (r, t) ∈ c'.deliveries → ∃ x, c'.service.requests[r]? = some x ∧ x.stage.tunnel? = some t := by
  intro r t mem
  rcases deliveryCame step mem with old | ⟨-, -, n, x, -, -, now⟩
  · obtain ⟨x, found, tunnel⟩ := handed.kept r t old
    obtain ⟨x', found', grows⟩ := requestGrows step found
    exact ⟨x', found', grows.tunnel t tunnel⟩
  · exact ⟨_, now, rfl⟩

theorem handedNoted {c c' : Shared} {a : Action} (step : Step c a c') (handed : Handed c) :
    ∀ r x, c'.service.requests[r]? = some x → ∀ t, x.stage.accepted? = some t → (r, t) ∈ c'.deliveries := by
  intro r x found t accepted
  have still : ∀ {y}, c.service.requests[r]? = some y → y.stage.accepted? = some t → (r, t) ∈ c'.deliveries :=
    fun before kept => deliveryKept step (handed.noted r _ before t kept)
  cases requestCame step found with
  | same before => exact still before accepted
  | asked p => contradiction
  | moved before at' move =>
    cases move with
    | deliver n _ handed =>
      cases accepted
      simp [handed]
    | promote => exact still before (at' ▸ accepted)
    | settle => exact still before (at' ▸ accepted)
    | announce => exact still before (at' ▸ accepted)
    | overdue => exact still before (at' ▸ accepted)
    | _ => contradiction
  | released before => exact still before accepted
  | left before => exact still before accepted

theorem handedStep {c c' : Shared} {a : Action} (step : Step c a c') (handed : Handed c) : Handed c' :=
  ⟨handedKnown step handed, handedKept step handed, handedNoted step handed⟩

theorem handedReachable {c : Shared} (reachable : c.Reachable) : Handed c :=
  reachableKeeps ⟨by simp, by simp, by simp⟩ (fun _ => handedStep) reachable

theorem handedLife {c : Shared} (handed : Handed c) {r : Nat} {t : TunnelId} (mem : (r, t) ∈ c.deliveries) :
    ∃ l, c.service.life? t = some l :=
  ⟨_, lifeOf (List.getElem?_eq_getElem (handed.known r t mem))⟩

theorem handedSame {c : Shared} (handed : Handed c) {r : Nat} {x : Request} {t u : TunnelId}
    (found : c.service.requests[r]? = some x) (tunnel : x.stage.tunnel? = some u) (mem : (r, t) ∈ c.deliveries) :
    u = t := by
  obtain ⟨y, other, same⟩ := handed.kept r t mem
  cases found.symm.trans other
  exact Option.some.inj (tunnel.symm.trans same)

theorem acceptedOnce {c : Shared} (handed : Handed c) (fresh : c.Fresh) {q r : Nat} {x : Request} {t : TunnelId}
    (found : c.service.requests[q]? = some x) (accepted : x.stage.accepted? = some t)
    (mem : (r, t) ∈ c.deliveries) : q = r :=
  freshSame fresh (handed.noted q x found t accepted) mem

end TunnelRelay.Shared
