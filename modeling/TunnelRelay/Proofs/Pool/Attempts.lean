import TunnelRelay.Proofs.Pool.Representation

/-! The number of an attempt belongs to one request. Numbers are given out in order
and never again, so that a request that has ended has left no mark of its own, even
if marks of its key have been overwritten in the meantime. -/
namespace TunnelRelay.Shared
open Service (Request Stage)

structure Sole (n r : Nat) (c : Shared) : Prop where
  given : n < c.service.pool.nextAttempt
  held : ∀ q y, c.service.requests[q]? = some y → y.stage.attempt? = some n → q = r

theorem attemptsGrow {c c' : Shared} {a : Action} (step : Step c a c') :
    c.service.pool.nextAttempt ≤ c'.service.pool.nextAttempt := by
  cases step with
  | register => exact (Pool.nextRegister ..).symm ▸ Nat.le_succ _
  | promote => exact Nat.le_of_eq (Pool.nextPromote ..).symm
  | settle => exact Nat.le_of_eq (Pool.nextAbandon ..).symm
  | giveUp => exact Nat.le_of_eq (Pool.nextAbandon ..).symm
  | overdue => exact Nat.le_of_eq (Pool.nextRemove ..).symm
  | forget => exact Nat.le_of_eq (Pool.nextRemove ..).symm
  | _ => exact Nat.le_refl _

theorem attemptCame {c c' : Shared} {a : Action} (step : Step c a c') {q n : Nat} {y : Request}
    (found : c'.service.requests[q]? = some y) (attempt : y.stage.attempt? = some n) :
    (∃ x, c.service.requests[q]? = some x ∧ x.stage.attempt? = some n) ∨
      ∃ b, a = .advance q b ∧ c.service.pool.nextAttempt = n ∧ c'.service.pool.nextAttempt = n + 1 := by
  cases requestCame step found with
  | same before => exact .inl ⟨_, before, attempt⟩
  | asked => contradiction
  | moved before at' move =>
    cases move with
    | register m acted fresh counted =>
      cases attempt
      exact .inr ⟨_, acted, fresh, counted⟩
    | deliver => exact .inl ⟨_, before, at' ▸ attempt⟩
    | promote => exact .inl ⟨_, before, at' ▸ attempt⟩
    | _ => contradiction
  | released before => exact .inl ⟨_, before, attempt⟩
  | left before => exact .inl ⟨_, before, attempt⟩

theorem soleStep {c c' : Shared} {a : Action} {n r : Nat} (step : Step c a c') (sole : Sole n r c) : Sole n r c' := by
  refine ⟨Nat.lt_of_lt_of_le sole.given (attemptsGrow step), fun q y found attempt => ?_⟩
  rcases attemptCame step found attempt with ⟨x, before, same⟩ | ⟨-, -, fresh, -⟩
  · exact sole.held q x before same
  · exact absurd sole.given (by omega)

theorem soleReachable {c : Shared} (reachable : c.Reachable) {r n : Nat} {x : Request}
    (found : c.service.requests[r]? = some x) (attempt : x.stage.attempt? = some n) : Sole n r c := by
  refine reachableKeeps (P := fun d => ∀ r n x, d.service.requests[r]? = some x → x.stage.attempt? = some n →
    Sole n r d) (by simp) ?_ reachable r n x found attempt
  intro c c' a _ step before r n x found attempt
  rcases attemptCame step found attempt with ⟨y, earlier, same⟩ | ⟨b, acted, fresh, counted⟩
  · exact soleStep step (before r n y earlier same)
  · refine ⟨counted ▸ Nat.lt_succ_self n, fun q z other same => ?_⟩
    rcases attemptCame step other same with ⟨y, earlier, held⟩ | ⟨_, acted', -⟩
    · exact absurd (before q n y earlier held).given (by omega)
    · cases acted.symm.trans acted'
      rfl

theorem unmarked {c d : Shared} {actions : List Action} (reachable : c.Reachable) (ran : c.run actions = some d)
    {r n : Nat} {x y : Request} (found : c.service.requests[r]? = some x) (attempt : x.stage.attempt? = some n)
    (now : d.service.requests[r]? = some y) (ended : y.stage.ended = true) (k : ProfileKey) :
    d.service.pool.entryAt? k ≠ some (.pending n) := by
  intro entry
  have sole : Sole n r d := runKeeps soleStep (soleReachable reachable found attempt) ran
  obtain ⟨q, z, other, -, held⟩ := markedReachable (reachableRun reachable ran) k n entry
  cases sole.held q z other held
  cases now.symm.trans other
  simp [attemptRunning held] at ended

end TunnelRelay.Shared
