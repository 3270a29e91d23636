import TunnelRelay.Proofs.Pool.Growth

/-! How far a teardown has brought its tunnel. Whatever is past the flag has a closed
tunnel, and so on through its phases; a closed tunnel either still has a teardown on
the way to its handlers, or has been cancelled, has released its socket and holds no
handler. -/
namespace TunnelRelay
open Service (Request Stage)

namespace Teardown

def Phase.Reached : Phase → Lifecycle ProfileKey → Prop
  | flagging, _ => True
  | cancelling, l | ended, l => l.closed = true
  | releasing, l => l.closed = true ∧ l.cancelled = true
  | taking, l | forgetting _ _, l | publishing _, l => l.closed = true ∧ l.cancelled = true ∧ l.listening = false

def Phase.untaken : Phase → Bool
  | cancelling | releasing | taking => true
  | _ => false

theorem untakenWorking {phase : Phase} (untaken : phase.untaken = true) : phase.working = true := by
  cases phase <;> simp_all [Phase.untaken, Phase.working]

theorem reachedGrows {phase : Phase} {l l' : Lifecycle ProfileKey} (reached : phase.Reached l)
    (grows : Shared.LifeGrows l l') : phase.Reached l' := by
  cases phase with
  | flagging => trivial
  | cancelling => exact grows.closed reached
  | ended => exact grows.closed reached
  | releasing => exact ⟨grows.closed reached.1, grows.cancelled reached.2⟩
  | taking => exact ⟨grows.closed reached.1, grows.cancelled reached.2.1, grows.released reached.2.2⟩
  | forgetting => exact ⟨grows.closed reached.1, grows.cancelled reached.2.1, grows.released reached.2.2⟩
  | publishing => exact ⟨grows.closed reached.1, grows.cancelled reached.2.1, grows.released reached.2.2⟩

theorem reachedClosed {phase : Phase} {l : Lifecycle ProfileKey} (reached : phase.Reached l)
    (past : phase ≠ .flagging) : l.closed = true := by
  cases phase with
  | flagging => exact absurd rfl past
  | cancelling => exact reached
  | ended => exact reached
  | releasing => exact reached.1
  | taking => exact reached.1
  | forgetting => exact reached.1
  | publishing => exact reached.1

theorem reachedNotify {keys : List ProfileKey} {l : Lifecycle ProfileKey}
    (reached : Phase.Reached .taking l) : (Phase.notify keys).Reached l := by
  cases keys with
  | nil => exact reached.1
  | cons key rest => exact reached

end Teardown

namespace Shared
open Teardown (Phase)

structure Orderly (c : Shared) : Prop where
  reached : ∀ (i : Nat) (d : Teardown), c.teardowns[i]? = some d →
    ∃ l, (d.phase ≠ .flagging → c.service.life? d.tunnel = some l) ∧ d.phase.Reached l
  overtaken : ∀ t l, c.service.life? t = some l → l.closed = true →
    (l.handlers = [] ∧ l.cancelled = true ∧ l.listening = false) ∨
      ∃ (i : Nat) (d : Teardown), c.teardowns[i]? = some d ∧ d.tunnel = t ∧ d.phase.untaken = true

theorem orderlyLife {c : Shared} (orderly : Orderly c) {i : Nat} {d : Teardown} (found : c.teardowns[i]? = some d)
    {l : Lifecycle ProfileKey} (known : c.service.life? d.tunnel = some l) : d.phase.Reached l := by
  obtain ⟨l', known', reached⟩ := orderly.reached i d found
  by_cases past : d.phase = .flagging
  · rw [past]
    trivial
  · cases (known' past).symm.trans known
    exact reached

theorem tearsReached {old new : Phase} {l l' : Lifecycle ProfileKey} (tears : Tears old l new l')
    (reached : old.Reached l) : new.Reached l' := by
  cases tears with
  | flag => rfl
  | cancel => exact ⟨reached, rfl⟩
  | unbind => exact ⟨reached.1, reached.2, rfl⟩
  | take =>
    have taken : Phase.Reached .taking { l with handlers := [] } := reached
    exact Teardown.reachedNotify taken

theorem reachedStep {c c' : Shared} {a : Action} (step : Step c a c') (orderly : Orderly c) :
    ∀ (i : Nat) (d : Teardown), c'.teardowns[i]? = some d →
      ∃ l, (d.phase ≠ .flagging → c'.service.life? d.tunnel = some l) ∧ d.phase.Reached l := by
  have later : ∀ {t l} {phase : Phase}, c.service.life? t = some l → phase.Reached l →
      ∃ l', (phase ≠ .flagging → c'.service.life? t = some l') ∧ phase.Reached l' := by
    intro t l phase known reached
    obtain ⟨l', known', grows⟩ := lifeGrows step known
    exact ⟨l', fun _ => known', Teardown.reachedGrows reached grows⟩
  intro i d found'
  cases teardownCame step found' with
  | begun => exact ⟨{}, by simp, trivial⟩
  | same found =>
    obtain ⟨l, known, reached⟩ := orderly.reached i d found
    by_cases past : d.phase = .flagging
    · exact ⟨l, fun h => absurd past h, reached⟩
    · exact later (known past) reached
  | @moved e _ _ found at' goes =>
    obtain ⟨l, known, reached⟩ := orderly.reached i e found
    cases goes with
    | late life closed => exact later life closed
    | tear tears life now => exact ⟨_, fun _ => now, tearsReached tears (at' ▸ orderlyLife orderly found life)⟩
    | forget _ next =>
      rw [at'] at known reached
      rcases next with ⟨-, rfl⟩ | ⟨-, rfl⟩
      · exact later (known (by simp)) reached
      · exact later (known (by simp)) (Teardown.reachedNotify reached)
    | publish =>
      rw [at'] at known reached
      exact later (known (by simp)) (Teardown.reachedNotify reached)

theorem untakenGoes {c c' : Shared} {t : TunnelId} {old new : Phase} (goes : Goes c c' t old new)
    (untaken : old.untaken = true) :
    new.untaken = true ∨ ∃ l, c.service.life? t = some l ∧ c'.service.life? t = some { l with handlers := [] } ∧
      old = .taking := by
  cases goes with
  | tear tears known now =>
    cases tears with
    | flag => contradiction
    | cancel => exact .inl rfl
    | unbind => exact .inl rfl
    | take => exact .inr ⟨_, known, now, rfl⟩
  | _ => contradiction

theorem overtakenStep {c c' : Shared} {a : Action} (step : Step c a c') (orderly : Orderly c) :
    ∀ t l, c'.service.life? t = some l → l.closed = true →
      (l.handlers = [] ∧ l.cancelled = true ∧ l.listening = false) ∨
        ∃ (i : Nat) (d : Teardown), c'.teardowns[i]? = some d ∧ d.tunnel = t ∧ d.phase.untaken = true := by
  intro t l known closed
  cases lifeCame step known with
  | made => contradiction
  | watched _ opened => simp [opened] at closed
  | torn before found here at' tears now =>
    cases tears with
    | flag => exact .inr ⟨_, _, now, here, rfl⟩
    | cancel => exact .inr ⟨_, _, now, here, rfl⟩
    | unbind => exact .inr ⟨_, _, now, here, rfl⟩
    | take =>
      have reached := orderlyLife orderly found (here ▸ before)
      rw [at'] at reached
      exact .inl ⟨rfl, reached.2⟩
  | same before =>
    rcases orderly.overtaken t l before closed with done | ⟨i, d, found, rfl, untaken⟩
    · exact .inl done
    · rcases teardownGoes step found with still | ⟨phase, now, goes⟩
      · exact .inr ⟨i, d, still, rfl, untaken⟩
      · rcases untakenGoes goes untaken with still | ⟨m, life, after, at'⟩
        · exact .inr ⟨i, _, now, rfl, still⟩
        · cases known.symm.trans after
          have reached := orderlyLife orderly found life
          rw [at'] at reached
          exact .inl ⟨rfl, reached.2⟩

theorem orderlyStep {c c' : Shared} {a : Action} (step : Step c a c') (orderly : Orderly c) : Orderly c' :=
  ⟨reachedStep step orderly, overtakenStep step orderly⟩

theorem orderlyReachable {c : Shared} (reachable : c.Reachable) : Orderly c :=
  reachableKeeps ⟨by simp, by simp [Service.life?]⟩ (fun _ => orderlyStep) reachable

theorem pastClosed {c : Shared} (orderly : Orderly c) {i : Nat} {d : Teardown} (found : c.teardowns[i]? = some d)
    (past : d.phase ≠ .flagging) : c.service.isOpen d.tunnel = false := by
  obtain ⟨l, known, reached⟩ := orderly.reached i d found
  cases opened : c.service.isOpen d.tunnel with
  | false => rfl
  | true =>
    obtain ⟨m, known', open'⟩ := Service.isOpenLife.mp opened
    cases (known past).symm.trans known'
    exact absurd (Teardown.reachedClosed reached past) (by simp [open'])

end Shared
end TunnelRelay
