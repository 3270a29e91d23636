import Mathlib.Data.List.Nodup
import TunnelRelay.Proofs.Pool.Steps

/-! Where everything in a state comes from. For each part of a state that a step leads
to, a life, a request, a teardown, a reference, an entry or a delivery, one lemma says
from what part of the state before it came and what the step did to it. -/
namespace TunnelRelay
open Service (Request Stage)

namespace Shared
open Teardown (Phase)

theorem setAt {α : Type} {l : List α} {i : Nat} {x : α} (found : l[i]? = some x) (y : α) (j : Nat) :
    (l.set i y)[j]? = if j = i then some y else l[j]? := by
  obtain ⟨bound, -⟩ := List.getElem?_eq_some_iff.mp found
  rw [List.getElem?_set]
  by_cases same : i = j
  · simp [← same, bound]
  · simp [same, Ne.symm same]

theorem setSelf {α : Type} {l : List α} {i : Nat} {x : α} (found : l[i]? = some x) (y : α) :
    (l.set i y)[i]? = some y := by
  simp [setAt found]

theorem setCases {α : Type} {l : List α} {i j : Nat} {x y z : α} (found : l[i]? = some x)
    (known : (l.set i y)[j]? = some z) : j = i ∧ z = y ∨ j ≠ i ∧ l[j]? = some z := by
  rw [setAt found] at known
  split at known
  · rename_i same
    exact .inl ⟨same, (Option.some.inj known).symm⟩
  · rename_i different
    exact .inr ⟨different, known⟩

theorem appendOld {α : Type} {l : List α} {i : Nat} {x : α} (found : l[i]? = some x) (y : α) :
    (l ++ [y])[i]? = some x := by
  obtain ⟨bound, -⟩ := List.getElem?_eq_some_iff.mp found
  rw [List.getElem?_append_left bound, found]

theorem appendAt {α : Type} {l : List α} {y z : α} {i : Nat} (found : (l ++ [y])[i]? = some z) :
    l[i]? = some z ∨ i = l.length ∧ z = y := by
  rw [List.getElem?_append] at found
  split at found
  · exact .inl found
  · obtain ⟨bound, rfl⟩ := List.getElem?_eq_some_iff.mp found
    simp only [List.length_singleton] at bound
    exact .inr ⟨by omega, by simp⟩

theorem lifeLived {s : Service} {t : TunnelId} {y : Tunnel ProfileKey} (tunnel : s.tunnels[t]? = some y)
    (life : Lifecycle ProfileKey) (u : TunnelId) :
    (lived s t y life).life? u = if u = t then some life else s.life? u := by
  simp only [Service.life?, lived, setAt tunnel]
  split <;> rfl

theorem livedSelf {s : Service} {t : TunnelId} {y : Tunnel ProfileKey} (tunnel : s.tunnels[t]? = some y)
    (life : Lifecycle ProfileKey) : (lived s t y life).life? t = some life := by
  simp [lifeLived tunnel]

theorem lifeRelayed {s : Service} {t : TunnelId} {y y' : Tunnel ProfileKey} (tunnel : s.tunnels[t]? = some y)
    (life : y'.life = y.life) (u : TunnelId) :
    ({ s with tunnels := s.tunnels.set t y' } : Service).life? u = s.life? u := by
  simp only [Service.life?, setAt tunnel]
  by_cases same : u = t
  · simp [same, tunnel, life]
  · simp [same]

theorem lifeOf {s : Service} {t : TunnelId} {y : Tunnel ProfileKey} (tunnel : s.tunnels[t]? = some y) :
    s.life? t = some y.life := by
  simp [Service.life?, tunnel]

theorem lifeBound {s : Service} {t : TunnelId} {l : Lifecycle ProfileKey} (known : s.life? t = some l) :
    t < s.tunnels.length := by
  obtain ⟨y, tunnel, -⟩ := Option.map_eq_some_iff.mp known
  exact (List.getElem?_eq_some_iff.mp tunnel).1

inductive Tears : Phase → Lifecycle ProfileKey → Phase → Lifecycle ProfileKey → Prop where
  | flag {l} (opened : l.closed = false) : Tears .flagging l .cancelling { l with closed := true }
  | cancel (l) : Tears .cancelling l .releasing { l with cancelled := true }
  | unbind (l) : Tears .releasing l .taking { l with listening := false }
  | take (l) : Tears .taking l (.notify l.handlers) { l with handlers := [] }

inductive LifeCame (c c' : Shared) (t : TunnelId) : Lifecycle ProfileKey → Prop where
  | same {l} (known : c.service.life? t = some l) : LifeCame c c' t l
  | made (new : c.service.tunnels.length ≤ t) : LifeCame c c' t {}
  | watched {l} {r : Nat} {x : Request} (known : c.service.life? t = some l) (opened : l.closed = false)
      (found : c.service.requests[r]? = some x) (at' : x.stage = .watching t) :
      LifeCame c c' t { l with handlers := l.handlers ++ [x.profile.key] }
  | torn {l l' old new} {i : Nat} {d : Teardown} (known : c.service.life? t = some l)
      (found : c.teardowns[i]? = some d) (here : d.tunnel = t) (at' : d.phase = old) (tears : Tears old l new l')
      (now : c'.teardowns[i]? = some { d with phase := new }) : LifeCame c c' t l'

theorem lifeTorn {c c' : Shared} {i : Nat} {d : Teardown} {y : Tunnel ProfileKey} {old new : Phase}
    {life : Lifecycle ProfileKey} (found : c.teardowns[i]? = some d) (at' : d.phase = old)
    (tunnel : c.service.tunnels[d.tunnel]? = some y) (tears : Tears old y.life new life)
    (now : c'.teardowns[i]? = some { d with phase := new }) {t : TunnelId} {l : Lifecycle ProfileKey}
    (known : (lived c.service d.tunnel y life).life? t = some l) : LifeCame c c' t l := by
  rw [lifeLived tunnel] at known
  split at known
  · rename_i same
    cases known
    exact .torn (same ▸ lifeOf tunnel) found same.symm at' tears now
  · exact .same known

theorem lifeCame {c c' : Shared} {a : Action} (step : Step c a c') {t : TunnelId} {l : Lifecycle ProfileKey}
    (known : c'.service.life? t = some l) : LifeCame c c' t l := by
  cases step with
  | watch found at' tunnel opened =>
    have changed : (lived _ _ _ _).life? t = some l := known
    rw [lifeLived tunnel] at changed
    split at changed
    · rename_i same
      subst same
      cases changed
      exact .watched (lifeOf tunnel) opened found at'
    · exact .same changed
  | overdue _ _ tunnel =>
    have changed : (lived _ _ _ _).life? t = some l := known
    rw [lifeLived tunnel] at changed
    split at changed
    · rename_i same
      subst same
      cases changed
      exact .same (lifeOf tunnel)
    · exact .same changed
  | make =>
    obtain ⟨y, tunnel, rfl⟩ := Option.map_eq_some_iff.mp known
    rcases appendAt tunnel with old | ⟨rfl, rfl⟩
    · exact .same (lifeOf old)
    · exact .made (Nat.le_refl _)
  | relay tunnel life => exact .same ((lifeRelayed tunnel life t).symm.trans known)
  | flag found at' tunnel opened => exact lifeTorn found at' tunnel (.flag opened) (setSelf found _) known
  | cancel found at' tunnel => exact lifeTorn found at' tunnel (.cancel _) (setSelf found _) known
  | unbind found at' tunnel => exact lifeTorn found at' tunnel (.unbind _) (setSelf found _) known
  | take found at' tunnel => exact lifeTorn found at' tunnel (.take _) (setSelf found _) known
  | _ => exact .same known

section
variable {c : Shared} {t : TunnelId}

theorem requestHeld {r : Nat} {x : Request} (found : c.service.requests[r]? = some x)
    (tunnel : x.tunnel? = some t) : c.held t = true := by
  have asked : c.service.requests.any (fun x => x.tunnel? == some t) = true :=
    List.any_eq_true.mpr ⟨x, List.mem_of_getElem? found, by simp [tunnel]⟩
  simp [held, asked]

theorem teardownHeld {i : Nat} {d : Teardown} (found : c.teardowns[i]? = some d) (borrowed : d.borrowed = true)
    (present : d.phase ≠ .ended) : c.held d.tunnel = true := by
  have torn : (c.teardowns.any fun e => e.borrowed && e.phase != .ended && e.tunnel == d.tunnel) = true :=
    List.any_eq_true.mpr ⟨d, List.mem_of_getElem? found, by simp [borrowed, present]⟩
  simp [held, torn]

end

/- How a request with a key goes on from one stage to another, and what has become of the
key by then. -/
inductive Move (c c' : Shared) (a : Action) (q : Nat) (k : ProfileKey) : Stage → Stage → Prop where
  | enter : Move c c' a q k .entering .looking
  | refuse (e : Failure) : Move c c' a q k .entering (.done (.error e))
  | hit {t : TunnelId} (entry : c.service.pool.entryAt? k = some (.live t)) :
      Move c c' a q k .looking (.done (.ok t))
  | miss : Move c c' a q k .looking .registering
  | register (n : Nat) {b : Bool} (acted : a = .advance q b) (fresh : c.service.pool.nextAttempt = n)
      (counted : c'.service.pool.nextAttempt = n + 1) : Move c c' a q k .registering (.creating n)
  | abort (n : Nat) (abandoned : c'.service.pool.entryAt? k ≠ some (.pending n)) :
      Move c c' a q k (.creating n) .aborted
  | fail (n : Nat) (e : Failure) (abandoned : c'.service.pool.entryAt? k ≠ some (.pending n)) :
      Move c c' a q k (.creating n) (.done (.error e))
  | deliver (n : Nat) {t : TunnelId} (held : c.held t = true) (handed : c'.deliveries = c.deliveries ++ [(q, t)]) :
      Move c c' a q k (.creating n) (.promoting n t)
  | promote (n : Nat) (t : TunnelId) {b : Bool} (acted : a = .advance q b) :
      Move c c' a q k (.promoting n t) (.settling n t)
  | settle (n : Nat) (t : TunnelId) (abandoned : c'.service.pool.entryAt? k ≠ some (.pending n)) :
      Move c c' a q k (.settling n t) (.announcing t)
  | announce (t : TunnelId) : Move c c' a q k (.announcing t) (.watching t)
  | watch {t : TunnelId} (watched : ∃ l, c'.service.life? t = some l ∧ k ∈ l.handlers) :
      Move c c' a q k (.watching t) (.done (.ok t))
  | overdue {t : TunnelId} {l : Lifecycle ProfileKey} {b : Bool} (acted : a = .advance q b)
      (known : c.service.life? t = some l) (closed : l.closed = true)
      (removed : c'.service.pool.entryAt? k ≠ some (.live t)) : Move c c' a q k (.watching t) (.telling t)
  | tell (t : TunnelId) : Move c c' a q k (.telling t) (.done (.ok t))

inductive RequestCame (c c' : Shared) (a : Action) (q : Nat) : Request → Prop where
  | same {y} (found : c.service.requests[q]? = some y) : RequestCame c c' a q y
  | asked (p : Profile) (new : c.service.requests.length ≤ q) : RequestCame c c' a q { profile := p }
  | moved {y old stage} (found : c.service.requests[q]? = some y) (at' : y.stage = old)
      (move : Move c c' a q y.profile.key old stage) : RequestCame c c' a q { y with stage }
  | released {y t} (found : c.service.requests[q]? = some y) (at' : y.stage = .done (.ok t))
      (begun : c'.teardowns = c.teardowns ++ [{ tunnel := t, borrowed := true }]) :
      RequestCame c c' a q { y with released := true }
  | left {y} (found : c.service.requests[q]? = some y) (released : y.released = true) :
      RequestCame c c' a q { y with gone := true }

theorem requestMoved {c c' : Shared} {a : Action} {r : Nat} {x : Request} {old stage : Stage}
    (found : c.service.requests[r]? = some x) (at' : x.stage = old) (move : Move c c' a r x.profile.key old stage)
    {q : Nat} {y : Request} (other : (c.service.requests.set r { x with stage })[q]? = some y) :
    RequestCame c c' a q y := by
  rcases setCases found other with ⟨rfl, rfl⟩ | ⟨-, same⟩
  · exact .moved found at' move
  · exact .same same

theorem requestCame {c c' : Shared} {a : Action} (step : Step c a c') {q : Nat} {y : Request}
    (other : c'.service.requests[q]? = some y) : RequestCame c c' a q y := by
  cases step with
  | ask p =>
    rcases appendAt other with old | ⟨rfl, rfl⟩
    · exact .same old
    · exact .asked p (Nat.le_refl _)
  | walk found free =>
    rcases free with ⟨at', rfl | ⟨e, rfl⟩⟩ | ⟨at', rfl⟩
    · exact requestMoved found at' .enter other
    · exact requestMoved found at' (.refuse e) other
    · exact requestMoved found at' .miss other
  | hit found at' pooled => exact requestMoved found at' (.hit (Pool.lookupOpen.mp pooled).1) other
  | register found at' =>
    exact requestMoved found at' (.register _ rfl rfl (Pool.nextRegister _ _ _)) other
  | promote found at' => exact requestMoved found at' (.promote _ _ rfl) other
  | settle found at' => exact requestMoved found at' (.settle _ _ (Pool.abandoned _ _ _)) other
  | announce found at' => exact requestMoved found at' (.announce _) other
  | watch found at' tunnel =>
    exact requestMoved found at' (.watch ⟨_, livedSelf (s := c.service) tunnel _, by simp⟩) other
  | overdue found at' tunnel closed =>
    exact requestMoved found at' (.overdue rfl (lifeOf tunnel) closed (Pool.removed _ _ _)) other
  | tell found at' => exact requestMoved found at' (.tell _) other
  | deliver held _ found at' => exact requestMoved found at' (.deliver _ held rfl) other
  | giveUp found at' finished =>
    rcases finished with ⟨-, rfl⟩ | ⟨e, -, rfl⟩
    · exact requestMoved found at' (.abort _ (Pool.abandoned _ _ _)) other
    · exact requestMoved found at' (.fail _ e (Pool.abandoned _ _ _)) other
  | release found at' =>
    rcases setCases found other with ⟨rfl, rfl⟩ | ⟨-, same⟩
    · exact .released found at' rfl
    · exact .same same
  | leave found released =>
    rcases setCases found other with ⟨rfl, rfl⟩ | ⟨-, same⟩
    · exact .left found released
    · exact .same same
  | _ => exact .same other

inductive Goes (c c' : Shared) (t : TunnelId) : Phase → Phase → Prop where
  | late {l} (known : c.service.life? t = some l) (closed : l.closed = true) : Goes c c' t .flagging .ended
  | tear {old l new l'} (tears : Tears old l new l') (known : c.service.life? t = some l)
      (now : c'.service.life? t = some l') : Goes c c' t old new
  | forget {key rest phase} (removed : c'.service.pool.entryAt? key ≠ some (.live t))
      (next : c.held t = true ∧ phase = .publishing rest ∨ c.held t = false ∧ phase = .notify rest) :
      Goes c c' t (.forgetting key rest) phase
  | publish (rest : List ProfileKey) : Goes c c' t (.publishing rest) (.notify rest)

inductive TeardownCame (c c' : Shared) (i : Nat) : Teardown → Prop where
  | same {d} (found : c.teardowns[i]? = some d) : TeardownCame c c' i d
  | begun {t borrowed} (new : c.teardowns.length ≤ i) (truly : borrowed = c.held t)
      (known : borrowed = false → t < c.service.tunnels.length) : TeardownCame c c' i { tunnel := t, borrowed }
  | moved {d old phase} (found : c.teardowns[i]? = some d) (at' : d.phase = old)
      (goes : Goes c c' d.tunnel old phase) : TeardownCame c c' i { d with phase }

theorem teardownMoved {c c' : Shared} {i : Nat} {d : Teardown} {old phase : Phase} (found : c.teardowns[i]? = some d)
    (at' : d.phase = old) (goes : Goes c c' d.tunnel old phase) {j : Nat} {e : Teardown}
    (other : (c.phased i d phase)[j]? = some e) : TeardownCame c c' j e := by
  rcases setCases found other with ⟨rfl, rfl⟩ | ⟨-, same⟩
  · exact .moved found at' goes
  · exact .same same

theorem teardownCame {c c' : Shared} {a : Action} (step : Step c a c') {j : Nat} {e : Teardown}
    (other : c'.teardowns[j]? = some e) : TeardownCame c c' j e := by
  cases step with
  | begin truly known =>
    rcases appendAt other with old | ⟨rfl, rfl⟩
    · exact .same old
    · exact .begun (Nat.le_refl _) truly known
  | release found at' present =>
    rcases appendAt other with old | ⟨rfl, rfl⟩
    · exact .same old
    · refine .begun (Nat.le_refl _) (requestHeld found ?_).symm (by simp)
      simp [Request.tunnel?, at', present]
  | late found at' tunnel closed => exact teardownMoved found at' (.late (lifeOf tunnel) closed) other
  | flag found at' tunnel opened =>
    exact teardownMoved found at' (.tear (.flag opened) (lifeOf tunnel) (livedSelf tunnel _)) other
  | cancel found at' tunnel =>
    exact teardownMoved found at' (.tear (.cancel _) (lifeOf tunnel) (livedSelf tunnel _)) other
  | unbind found at' tunnel =>
    exact teardownMoved found at' (.tear (.unbind _) (lifeOf tunnel) (livedSelf tunnel _)) other
  | take found at' tunnel =>
    exact teardownMoved found at' (.tear (.take _) (lifeOf tunnel) (livedSelf tunnel _)) other
  | forget found at' next => exact teardownMoved found at' (.forget (Pool.removed _ _ _) next) other
  | publish found at' => exact teardownMoved found at' (.publish _) other
  | _ => exact .same other

theorem keyedStep {c c' : Shared} {a : Action} (step : Step c a c') (keyed : c.service.pool.Keyed) :
    c'.service.pool.Keyed := by
  cases step with
  | register => exact Pool.keyedRegister keyed _ _
  | promote => exact Pool.keyedPromote keyed _ _ _
  | settle => exact Pool.keyedAbandon keyed _ _
  | giveUp => exact Pool.keyedAbandon keyed _ _
  | overdue => exact Pool.keyedRemove keyed _ _
  | forget => exact Pool.keyedRemove keyed _ _
  | _ => exact keyed

theorem pendingCame {c c' : Shared} {a : Action} (step : Step c a c') {k : ProfileKey} {n : Nat}
    (entry : c'.service.pool.entryAt? k = some (.pending n)) :
    c.service.pool.entryAt? k = some (.pending n) ∨
      ∃ (r : Nat) (x : Request), c'.service.requests[r]? = some x ∧ x.profile.key = k ∧ x.stage = .creating n := by
  cases step with
  | register found =>
    rw [Pool.entryRegister] at entry
    split at entry
    · rename_i here
      cases entry
      exact .inr ⟨_, _, setSelf found _, here.1.symm, rfl⟩
    · exact .inl entry
  | promote => exact .inl (Pool.pendingBeforePromote entry)
  | settle => exact .inl (Pool.beforeAbandon entry)
  | giveUp => exact .inl (Pool.beforeAbandon entry)
  | overdue => exact .inl (Pool.beforeRemove entry)
  | forget => exact .inl (Pool.beforeRemove entry)
  | _ => exact .inl entry

theorem liveCame {c c' : Shared} {a : Action} (step : Step c a c') {k : ProfileKey} {t : TunnelId}
    (entry : c'.service.pool.entryAt? k = some (.live t)) :
    c.service.pool.entryAt? k = some (.live t) ∨
      ∃ (r : Nat) (x : Request) (n : Nat), c.service.requests[r]? = some x ∧ x.profile.key = k ∧
        x.stage = .promoting n t ∧ c'.service.requests[r]? = some { x with stage := .settling n t } := by
  cases step with
  | register => exact .inl (Pool.liveBeforeRegister entry)
  | promote found at' =>
    rw [Pool.entryPromote] at entry
    split at entry
    · rename_i here
      cases entry
      exact .inr ⟨_, _, _, found, here.1.symm, at', setSelf found _⟩
    · exact .inl entry
  | settle => exact .inl (Pool.beforeAbandon entry)
  | giveUp => exact .inl (Pool.beforeAbandon entry)
  | overdue => exact .inl (Pool.beforeRemove entry)
  | forget => exact .inl (Pool.beforeRemove entry)
  | _ => exact .inl entry

theorem deliveryCame {c c' : Shared} {a : Action} (step : Step c a c') {r : Nat} {t : TunnelId}
    (mem : (r, t) ∈ c'.deliveries) :
    (r, t) ∈ c.deliveries ∨ a = .deliver r t ∧ t < c.service.tunnels.length ∧
      ∃ (n : Nat) (x : Request), c.service.requests[r]? = some x ∧ x.stage = .creating n ∧
        c'.service.requests[r]? = some { x with stage := .promoting n t } := by
  cases step with
  | deliver _ known found at' =>
    rcases List.mem_append.mp mem with old | new
    · exact .inl old
    · cases List.mem_singleton.mp new
      exact .inr ⟨rfl, known, _, _, found, at', setSelf found _⟩
  | _ => exact .inl mem

end Shared
end TunnelRelay
