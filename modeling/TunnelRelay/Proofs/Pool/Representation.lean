import TunnelRelay.Proofs.Pool.Deliveries
import TunnelRelay.Proofs.Pool.Teardowns

/-! What the entries of the pool stand for. A mark belongs to a request that still
holds its attempt. A tunnel was handed to a request of the same key, and once it is
closed somebody is about to take it out: the request, which has yet to watch it, or
a teardown with the handler in hand or on the way to it. -/
namespace TunnelRelay
open Service (Request Stage)

namespace Teardown

def Phase.due : Phase → List ProfileKey
  | forgetting key rest => key :: rest
  | publishing rest => rest
  | _ => []

theorem dueNotify (keys : List ProfileKey) : (Phase.notify keys).due = keys := by
  cases keys <;> rfl

end Teardown

def Service.Stage.unwatched : Stage → Bool
  | settling .. | announcing _ | watching _ => true
  | _ => false

namespace Shared
open Teardown (Phase)

def Marked (p : Pool) (requests : List Request) : Prop :=
  ∀ k a, p.entryAt? k = some (.pending a) →
    ∃ (r : Nat) (x : Request), requests[r]? = some x ∧ x.profile.key = k ∧ x.stage.attempt? = some a

theorem attemptMoved {c c' : Shared} {a : Action} {q : Nat} {k : ProfileKey} {old new : Stage} {n : Nat}
    (move : Move c c' a q k old new) (attempt : old.attempt? = some n) :
    new.attempt? = some n ∨ c'.service.pool.entryAt? k ≠ some (.pending n) := by
  cases move with
  | abort m abandoned =>
    cases attempt
    exact .inr abandoned
  | fail m e abandoned =>
    cases attempt
    exact .inr abandoned
  | settle m t abandoned =>
    cases attempt
    exact .inr abandoned
  | deliver => exact .inl attempt
  | promote => exact .inl attempt
  | _ => contradiction

theorem markedStep {c c' : Shared} {a : Action} (step : Step c a c')
    (marked : Marked c.service.pool c.service.requests) : Marked c'.service.pool c'.service.requests := by
  intro k n entry
  rcases pendingCame step entry with before | ⟨r, x, found, key, at'⟩
  · obtain ⟨r, x, found, key, attempt⟩ := marked k n before
    obtain ⟨x', found', grows⟩ := requestGrows step found
    refine ⟨r, x', found', grows.profile ▸ key, ?_⟩
    cases requestCame step found' with
    | same earlier =>
      cases found.symm.trans earlier
      exact attempt
    | asked p new => exact absurd new (beyond found)
    | moved earlier at' move =>
      cases found.symm.trans earlier
      rcases attemptMoved move (at' ▸ attempt) with kept | gone
      · exact kept
      · exact absurd (key ▸ entry) gone
    | released earlier =>
      cases found.symm.trans earlier
      exact attempt
    | left earlier =>
      cases found.symm.trans earlier
      exact attempt
  · exact ⟨r, x, found, key, by rw [at']; rfl⟩

/- Somebody will look at the entry of a key once the tunnel has ended. -/
def Owing (c : Shared) (t : TunnelId) (k : ProfileKey) : Prop :=
  (∃ l, c.service.life? t = some l ∧ k ∈ l.handlers) ∨
    ∃ (i : Nat) (d : Teardown), c.teardowns[i]? = some d ∧ d.tunnel = t ∧ k ∈ d.phase.due

def Rooted (c : Shared) : Prop :=
  ∀ k t, c.service.pool.entryAt? k = some (.live t) →
    ∃ (r : Nat) (x : Request), (r, t) ∈ c.deliveries ∧ c.service.requests[r]? = some x ∧ x.profile.key = k ∧
      (x.stage.unwatched = true ∨ c.Owing t k)

theorem owingHandler {c c' : Shared} {a : Action} (step : Step c a c') {t : TunnelId} {l : Lifecycle ProfileKey}
    {k : ProfileKey} (known : c.service.life? t = some l) (mem : k ∈ l.handlers) : c'.Owing t k := by
  obtain ⟨l', known', -⟩ := lifeGrows step known
  cases lifeCame step known' with
  | same before =>
    cases known.symm.trans before
    exact .inl ⟨_, known', mem⟩
  | made new => exact absurd (lifeBound known) (Nat.not_lt.mpr new)
  | watched before =>
    cases known.symm.trans before
    exact .inl ⟨_, known', List.mem_append_left _ mem⟩
  | torn before _ here _ tears now =>
    cases known.symm.trans before
    cases tears with
    | take => exact .inr ⟨_, _, now, here, by rw [Teardown.dueNotify]; exact mem⟩
    | _ => exact .inl ⟨_, known', mem⟩

theorem owingDue {c c' : Shared} {a : Action} (step : Step c a c') {k : ProfileKey} {i : Nat} {d : Teardown}
    (found : c.teardowns[i]? = some d) (entry : c'.service.pool.entryAt? k = some (.live d.tunnel))
    (due : k ∈ d.phase.due) : c'.Owing d.tunnel k := by
  rcases teardownGoes step found with still | ⟨phase, now, goes⟩
  · exact .inr ⟨i, d, still, rfl, due⟩
  · refine .inr ⟨i, _, now, rfl, ?_⟩
    generalize d.phase = old at goes due
    cases goes with
    | late => simp [Phase.due] at due
    | tear tears => cases tears <;> simp [Phase.due] at due
    | forget removed next =>
      rcases List.mem_cons.mp due with rfl | later
      · exact absurd entry removed
      · rcases next with ⟨-, rfl⟩ | ⟨-, rfl⟩
        · exact later
        · rw [Teardown.dueNotify]
          exact later
    | publish =>
      rw [Teardown.dueNotify]
      exact due

theorem owingKept {c c' : Shared} {a : Action} (step : Step c a c') {k : ProfileKey} {t : TunnelId}
    (entry : c'.service.pool.entryAt? k = some (.live t)) (owing : c.Owing t k) : c'.Owing t k := by
  rcases owing with ⟨l, known, mem⟩ | ⟨i, d, found, rfl, due⟩
  · exact owingHandler step known mem
  · exact owingDue step found entry due

theorem unwatchedMoved {c c' : Shared} {a : Action} {q : Nat} {k : ProfileKey} {old new : Stage} {t : TunnelId}
    (move : Move c c' a q k old new) (tunnel : old.tunnel? = some t) (unwatched : old.unwatched = true) :
    new.unwatched = true ∨ c'.Owing t k ∨ c'.service.pool.entryAt? k ≠ some (.live t) := by
  cases move with
  | settle => exact .inl rfl
  | announce => exact .inl rfl
  | watch watched =>
    cases tunnel
    exact .inr (.inl (.inl watched))
  | overdue _ _ _ removed =>
    cases tunnel
    exact .inr (.inr removed)
  | _ => contradiction

theorem unwatchedCame {c c' : Shared} {a : Action} {q : Nat} {x x' : Request} {t : TunnelId}
    (came : RequestCame c c' a q x') (found : c.service.requests[q]? = some x) (tunnel : x.stage.tunnel? = some t)
    (unwatched : x.stage.unwatched = true) (entry : c'.service.pool.entryAt? x.profile.key = some (.live t)) :
    x'.stage.unwatched = true ∨ c'.Owing t x.profile.key := by
  cases came with
  | same earlier =>
    cases found.symm.trans earlier
    exact .inl unwatched
  | asked p new => exact absurd new (beyond found)
  | moved earlier at' move =>
    cases found.symm.trans earlier
    rcases unwatchedMoved move (at' ▸ tunnel) (at' ▸ unwatched) with still | owing | removed
    · exact .inl still
    · exact .inr owing
    · exact absurd entry removed
  | released earlier =>
    cases found.symm.trans earlier
    exact .inl unwatched
  | left earlier =>
    cases found.symm.trans earlier
    exact .inl unwatched

theorem rootedStep {c c' : Shared} {a : Action} (step : Step c a c') (handed : Handed c) (rooted : Rooted c) :
    Rooted c' := by
  intro k t entry
  rcases liveCame step entry with before | ⟨r, x, n, found, key, at', now⟩
  · obtain ⟨r, x, mem, found, rfl, why⟩ := rooted k t before
    obtain ⟨x', found', grows⟩ := requestGrows step found
    refine ⟨r, x', deliveryKept step mem, found', congrArg Profile.key grows.profile, ?_⟩
    rcases why with unwatched | owing
    · obtain ⟨y, known, tunnel⟩ := handed.kept r t mem
      cases found.symm.trans known
      exact unwatchedCame (requestCame step found') found tunnel unwatched entry
    · exact .inr (owingKept step entry owing)
  · have mem := handed.noted r x found t (congrArg Stage.accepted? at')
    exact ⟨r, _, deliveryKept step mem, now, key, .inl rfl⟩

theorem markedReachable {c : Shared} (reachable : c.Reachable) : Marked c.service.pool c.service.requests :=
  reachableKeeps (P := fun d => Marked d.service.pool d.service.requests) (by simp [Marked, Pool.entryAt?])
    (fun _ => markedStep) reachable

theorem rootedReachable {c : Shared} (reachable : c.Reachable) : Rooted c := by
  refine reachableKeeps (by simp [Rooted, Pool.entryAt?]) ?_ reachable
  intro c c' a reachable step rooted
  exact rootedStep step (handedReachable reachable) rooted

theorem owingClosed {c : Shared} (orderly : Orderly c) {t : TunnelId} {k : ProfileKey} (owing : c.Owing t k)
    (closed : c.service.isOpen t = false) :
    ∃ (i : Nat) (d : Teardown), c.teardowns[i]? = some d ∧ d.tunnel = t ∧
      (d.phase.untaken = true ∨ k ∈ d.phase.due) := by
  rcases owing with ⟨l, known, mem⟩ | ⟨i, d, found, tunnel, due⟩
  · have shut : l.closed = true := by
      cases h : l.closed with
      | true => rfl
      | false => simp [Service.isOpenLife.mpr ⟨l, known, h⟩] at closed
    rcases orderly.overtaken t l known shut with ⟨empty, -⟩ | ⟨i, d, found, tunnel, untaken⟩
    · simp [empty] at mem
    · exact ⟨i, d, found, tunnel, .inl untaken⟩
  · exact ⟨i, d, found, tunnel, .inr due⟩

theorem owedWorking {phase : Phase} {k : ProfileKey} (owed : phase.untaken = true ∨ k ∈ phase.due) :
    phase.working = true := by
  rcases owed with untaken | due
  · exact Teardown.untakenWorking untaken
  · cases phase <;> simp_all [Phase.due, Phase.working]

theorem unwatchedRunning {stage : Stage} (unwatched : stage.unwatched = true) : stage.ended = false := by
  cases stage <;> simp_all [Stage.unwatched, Stage.ended]

theorem attemptRunning {stage : Stage} {a : Nat} (attempt : stage.attempt? = some a) : stage.ended = false := by
  cases stage <;> simp_all [Stage.attempt?, Stage.ended]

theorem quietEntry {c : Shared} (reachable : c.Reachable) (quiet : c.Quiet) {k : ProfileKey} {e : PoolEntry}
    (entry : c.service.pool.entryAt? k = some e) : ∃ t, e = .live t ∧ c.service.isOpen t = true := by
  cases e with
  | pending a =>
    obtain ⟨r, x, found, -, attempt⟩ := markedReachable reachable k a entry
    have finished := quiet.requests x (List.mem_of_getElem? found)
    simp [attemptRunning attempt] at finished
  | live t =>
    refine ⟨t, rfl, ?_⟩
    cases closed : c.service.isOpen t with
    | true => rfl
    | false =>
      obtain ⟨r, x, -, found, -, unwatched | owing⟩ := rootedReachable reachable k t entry
      · have finished := quiet.requests x (List.mem_of_getElem? found)
        simp [unwatchedRunning unwatched] at finished
      · obtain ⟨i, d, found, -, owed⟩ := owingClosed (orderlyReachable reachable) owing closed
        have finished := quiet.teardowns d (List.mem_of_getElem? found)
        simp [owedWorking owed] at finished

theorem healthyEntries {isOpen : TunnelId → Bool} {l : List (ProfileKey × PoolEntry)}
    (every : ∀ x ∈ l, ∃ t, x.2 = .live t ∧ isOpen t = true) :
    l.map Prod.snd = (l.filterMap fun x => x.2.healthy isOpen).map .live := by
  induction l with
  | nil => rfl
  | cons head tail ih =>
    obtain ⟨t, live, opened⟩ := every head (by simp)
    have rest := ih fun x mem => every x (List.mem_cons_of_mem head mem)
    simp [live, opened, PoolEntry.healthy, rest]

theorem createsAfresh {c : Shared} {p : Profile} (permitted : p.isPermitted = true)
    (missing : c.service.pool.lookup c.service.isOpen p.key = none) :
    ∃ c', c.run [.ask p, .advance c.service.requests.length false, .advance c.service.requests.length false,
        .advance c.service.requests.length false] = some c' ∧
      c'.service.requests[c.service.requests.length]? =
        some { profile := p, stage := .creating c.service.pool.nextAttempt } ∧
      c'.service.pool.entryAt? p.key = some (.pending c.service.pool.nextAttempt) := by
  have asked : (c.service.requests ++ [{ profile := p }])[c.service.requests.length]? = some { profile := p } := by
    simp
  have looked := setSelf asked { profile := p, stage := .looking }
  have missed := setSelf looked { profile := p, stage := .registering }
  have asking : c.step (.ask p) = some { c with service := (c.service.addRequest p).1 } := rfl
  have ran := runStep asking (runStep (enterStep asked rfl permitted) (runStep (missStep looked rfl missing false)
    (runStep (registerStep missed rfl false) (runNil _))))
  refine ⟨_, ran, setSelf missed _, ?_⟩
  exact (Pool.entryRegister ..).trans (if_pos ⟨rfl, missing⟩)

/- Every entry is accounted for by a request on its way, by an open tunnel, or by
somebody who is about to take it out; so nothing is left once all is quiet. -/
theorem entriesAccounted {c : Shared} (reachable : c.Reachable) :
    (c.service.pool.entries.map Prod.fst).Nodup ∧
    (∀ k a, (k, .pending a) ∈ c.service.pool.entries →
      ∃ (r : Nat) (x : Request), c.service.requests[r]? = some x ∧ x.profile.key = k ∧
        x.stage.attempt? = some a ∧ x.stage.ended = false) ∧
    (∀ k t, (k, .live t) ∈ c.service.pool.entries →
      ∃ (r : Nat) (x : Request), (r, t) ∈ c.deliveries ∧ c.service.requests[r]? = some x ∧ x.profile.key = k ∧
        (c.service.isOpen t = false → x.stage.unwatched = true ∨
          ∃ (i : Nat) (d : Teardown), c.teardowns[i]? = some d ∧ d.tunnel = t ∧
            (d.phase.untaken = true ∨ k ∈ d.phase.due))) ∧
    (c.Quiet →
      c.service.pool.entries.map Prod.snd = (c.service.pool.members c.service.isOpen).map .live ∧
      ∀ p : Profile, p.isPermitted = true → (∀ t, (p.key, .live t) ∉ c.service.pool.entries) →
        ∃ c', c.run [.ask p, .advance c.service.requests.length false, .advance c.service.requests.length false,
            .advance c.service.requests.length false] = some c' ∧
          c'.service.requests[c.service.requests.length]? =
            some { profile := p, stage := .creating c.service.pool.nextAttempt } ∧
          c'.service.pool.entryAt? p.key = some (.pending c.service.pool.nextAttempt)) := by
  have keyed := keyedReachable reachable
  refine ⟨keyed, ?marks, ?roots, fun quiet => ⟨?all, ?afresh⟩⟩
  case marks =>
    intro k a mem
    obtain ⟨r, x, found, key, attempt⟩ := markedReachable reachable k a ((Pool.entryMember keyed).mpr mem)
    exact ⟨r, x, found, key, attempt, attemptRunning attempt⟩
  case roots =>
    intro k t mem
    obtain ⟨r, x, known, found, key, why⟩ := rootedReachable reachable k t ((Pool.entryMember keyed).mpr mem)
    refine ⟨r, x, known, found, key, fun closed => ?_⟩
    exact why.imp_right fun owing => owingClosed (orderlyReachable reachable) owing closed
  case all =>
    exact healthyEntries fun x mem => quietEntry reachable quiet ((Pool.entryMember keyed).mpr mem)
  case afresh =>
    intro p permitted missing
    refine createsAfresh permitted ?_
    cases looked : c.service.pool.lookup c.service.isOpen p.key with
    | none => rfl
    | some t =>
      have pooled := (Pool.lookupOpen.mp looked).1
      exact absurd ((Pool.entryMember keyed).mp pooled) (missing t)

theorem entriesAccountedOverlap :
    let c := after (asking desktop 0 ++ making 0 0 ++
      [.advance 0 false, .advance 0 false, .advance 0 false, .dispose 0, .teardown 0] ++ asking shell 1)
    let e := after (asking desktop 0 ++ making 0 0 ++ List.replicate 4 (.advance 0 false))
    c.service.pool.entries = [(desktop.key, .live 0), (shell.key, .pending 1)] ∧
    (∃ (r : Nat) (x : Request), c.service.requests[r]? = some x ∧ x.profile.key = shell.key ∧
      x.stage.attempt? = some 1 ∧ x.stage.ended = false) ∧
    (∃ (r : Nat) (x : Request), (r, 0) ∈ c.deliveries ∧ c.service.requests[r]? = some x ∧
      x.profile.key = desktop.key ∧ (x.stage.unwatched = true ∨
        ∃ (i : Nat) (d : Teardown), c.teardowns[i]? = some d ∧ d.tunnel = 0 ∧
          (d.phase.untaken = true ∨ desktop.key ∈ d.phase.due))) ∧
    e.service.pool.entries.map Prod.snd = (e.service.pool.members e.service.isOpen).map .live := by
  intro c e
  have quiet : e.Quiet := ⟨by decide, by decide⟩
  obtain ⟨-, marks, roots, -⟩ := entriesAccounted (c := c) (afterReachable rfl)
  obtain ⟨r, x, mem, found, key, why⟩ := roots desktop.key 0 (by decide)
  refine ⟨by decide, marks shell.key 1 (by decide), ⟨r, x, mem, found, key, why (by decide)⟩, ?_⟩
  exact ((entriesAccounted (c := e) (afterReachable rfl)).2.2.2 quiet).1

end Shared
end TunnelRelay
