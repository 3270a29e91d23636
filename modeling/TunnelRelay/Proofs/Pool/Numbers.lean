import TunnelRelay.Proofs.Pool.Attempts
import TunnelRelay.Proofs.Pool.References
import TunnelRelay.Proofs.Pool.Sorting

/-! Numbers of requests, tunnels and teardowns. A step gives out the next of them, and mentions
only such as have been given out; so does every part of a state. -/
namespace TunnelRelay.Shared
open Service (Request Stage)

variable {c c' : Shared} {a : Action}

theorem requestsKept (step : Step c a c') (quiet : ∀ p, a ≠ .ask p) :
    c'.service.requests.length = c.service.requests.length := by
  cases step with
  | ask p => exact absurd rfl (quiet p)
  | _ => simp [staged, lived, Shared.begin]

theorem tunnelsMade (moved : c.step a = some c') :
    c'.service.tunnels.length = c.service.tunnels.length + Sorting.made a := by
  by_cases makes : ∃ admission bufferSize statistics, a = .make admission bufferSize statistics
  · obtain ⟨_, _, _, rfl⟩ := makes
    cases moved
    exact List.length_append
  · have none : Sorting.made a = 0 := by
      cases a with
      | make => exact absurd ⟨_, _, _, rfl⟩ makes
      | _ => rfl
    rw [none, Nat.add_zero]
    cases stepCases moved with
    | make => exact absurd ⟨_, _, _, rfl⟩ makes
    | _ => simp [staged, lived, Shared.begin]

theorem teardownsCame (moved : c.step a = some c') :
    (c.closes? a = none ∧ c'.teardowns.length = c.teardowns.length) ∨
      ∃ t borrowed, c.closes? a = some t ∧ c'.teardowns = c.teardowns ++ [{ tunnel := t, borrowed }] := by
  cases a with
  | ask | make => cases moved; exact .inl ⟨rfl, rfl⟩
  | advance | fail | abort =>
    obtain ⟨w, -, rfl⟩ := Option.map_eq_some_iff.mp moved
    exact .inl ⟨rfl, rfl⟩
  | deliver r t =>
    simp only [step] at moved
    split at moved
    · obtain ⟨w, -, rfl⟩ := Option.map_eq_some_iff.mp moved
      exact .inl ⟨rfl, rfl⟩
    · cases moved
  | arrive | poll | act =>
    simp only [step, changeTunnel, bind, Option.bind_eq_some_iff] at moved
    obtain ⟨y, -, y', -, last⟩ := moved
    cases last
    exact .inl ⟨rfl, rfl⟩
  | share t | letGo t =>
    simp only [step] at moved
    split at moved <;> cases moved
    exact .inl ⟨rfl, rfl⟩
  | dispose t | destroy t =>
    simp only [step] at moved
    split at moved <;> cases moved
    exact .inr ⟨t, _, rfl, rfl⟩
  | release r =>
    simp only [step, Service.release, bind, Option.bind_eq_some_iff] at moved
    obtain ⟨x, -, ⟨w, t⟩, ⟨y, -, u, transport, released⟩, moved⟩ := moved
    split at released <;> cases released
    split at moved <;> cases moved
    exact .inr ⟨t, true, transport, rfl⟩
  | leave r =>
    simp only [step, bind, Option.bind_eq_some_iff] at moved
    obtain ⟨x, -, moved⟩ := moved
    split at moved <;> cases moved
    exact .inl ⟨rfl, rfl⟩
  | teardown i =>
    simp only [step, stepTeardown, bind, Option.bind_eq_some_iff] at moved
    obtain ⟨d, -, w, -, last⟩ := moved
    cases last
    exact .inl ⟨rfl, List.length_set⟩

theorem deliverMoved {r : Nat} {t : TunnelId} (moved : c.step (.deliver r t) = some c') :
    (r, t) ∈ c'.deliveries ∧ ∃ x, c.service.requests[r]? = some x := by
  simp only [step] at moved
  split at moved
  · obtain ⟨w, created, rfl⟩ := Option.map_eq_some_iff.mp moved
    simp only [Service.created, bind, Option.bind_eq_some_iff] at created
    obtain ⟨x, found, -⟩ := created
    exact ⟨List.mem_append_right _ (List.mem_singleton.mpr rfl), x, found⟩
  · cases moved

structure Known (c : Shared) : Prop where
  handed : ∀ (r : Nat) x t, c.service.requests[r]? = some x → x.stage.tunnel? = some t → t < c.service.tunnels.length
  lives : ∀ k t, c.service.pool.entryAt? k = some (.live t) → t < c.service.tunnels.length
  teardowns : ∀ (i : Nat) d, c.teardowns[i]? = some d → d.tunnel < c.service.tunnels.length
  deliveries : ∀ r t, (r, t) ∈ c.deliveries → t < c.service.tunnels.length
  references : ∀ t ∈ c.references, t < c.service.tunnels.length
  published : ∀ e ∈ c.service.published, e.tunnel < c.service.tunnels.length

section
variable (known : Known c) (keyed : c.service.pool.Keyed)
include known keyed

theorem heldKnown {t : TunnelId} (held : c.held t = true) : t < c.service.tunnels.length := by
  simp only [Shared.held, Bool.or_eq_true, List.any_eq_true] at held
  rcases held with ((mem | ⟨⟨k, e⟩, mem, live⟩) | ⟨x, mem, tunnel⟩) | ⟨d, mem, working⟩
  · exact known.references t (by simpa using mem)
  · cases eq_of_beq live
    exact known.lives k t ((Pool.entryMember keyed).mpr mem)
  · obtain ⟨r, found⟩ := List.mem_iff_getElem?.mp mem
    exact known.handed r x t found (stageTunnel (x := x) (by simpa using tunnel))
  · obtain ⟨i, found⟩ := List.mem_iff_getElem?.mp mem
    simp only [Bool.and_eq_true, beq_iff_eq] at working
    exact working.2 ▸ known.teardowns i d found

variable (step : Step c a c')
include step

theorem handedKnownStep {r : Nat} {x : Request} {t : TunnelId} (found : c'.service.requests[r]? = some x)
    (tunnel : x.stage.tunnel? = some t) : t < c.service.tunnels.length := by
  cases requestCame step found with
  | same before => exact known.handed r x t before tunnel
  | asked p => contradiction
  | @moved y old stage before at' move =>
    have still (kept : y.stage.tunnel? = some t) := known.handed r y t before kept
    cases move with
    | hit entry =>
      cases tunnel
      exact known.lives _ t entry
    | deliver n held =>
      cases tunnel
      exact heldKnown known keyed held
    | promote => exact still (at' ▸ tunnel)
    | settle => exact still (at' ▸ tunnel)
    | announce => exact still (at' ▸ tunnel)
    | watch => exact still (at' ▸ tunnel)
    | overdue => exact still (at' ▸ tunnel)
    | tell => exact still (at' ▸ tunnel)
    | _ => contradiction
  | @released y _ before => exact known.handed r y t before tunnel
  | @left y before => exact known.handed r y t before tunnel

omit keyed in
theorem livesKnownStep {k : ProfileKey} {t : TunnelId} (entry : c'.service.pool.entryAt? k = some (.live t)) :
    t < c.service.tunnels.length := by
  rcases liveCame step entry with before | ⟨r, x, n, found, -, at', -⟩
  · exact known.lives k t before
  · exact known.handed r x t found (by rw [at']; rfl)

theorem teardownsKnownStep {i : Nat} {d : Teardown} (found : c'.teardowns[i]? = some d) :
    d.tunnel < c.service.tunnels.length := by
  cases teardownCame step found with
  | same before => exact known.teardowns i d before
  | @begun t borrowed new truly unheld =>
    cases borrowed with
    | true => exact heldKnown known keyed truly.symm
    | false => exact unheld rfl
  | @moved d _ _ before => exact known.teardowns i d before

theorem referencesKnownStep {t : TunnelId} (mem : t ∈ c'.references) : t < c'.service.tunnels.length := by
  have old (before : t < c.service.tunnels.length) := Nat.lt_of_lt_of_le before (tunnelsGrow step)
  have last {u : TunnelId} (below : u < c.service.tunnels.length) (mem : t ∈ c.references ++ [u]) :
      t < c.service.tunnels.length := by
    rcases List.mem_append.mp mem with before | new
    · exact known.references t before
    · exact List.mem_singleton.mp new ▸ below
  cases step with
  | announce found at' => exact old (last (known.handed _ _ _ found (by rw [at']; rfl)) mem)
  | tell found at' => exact old (last (known.handed _ _ _ found (by rw [at']; rfl)) mem)
  | make =>
    rcases List.mem_append.mp mem with before | new
    · exact old (known.references t before)
    · rw [List.mem_singleton.mp new]
      simp
  | refer among => exact old (heldKnown known keyed (among t mem))
  | publish found => exact old (last (known.teardowns _ _ found) mem)
  | _ => exact old (known.references t mem)

omit keyed in
theorem publishedKnownStep {e : Service.Event} (mem : e ∈ c'.service.published) :
    e.tunnel < c.service.tunnels.length := by
  have last {f : Service.Event} (below : f.tunnel < c.service.tunnels.length) (mem : e ∈ c.service.published ++ [f]) :
      e.tunnel < c.service.tunnels.length := by
    rcases List.mem_append.mp mem with before | new
    · exact known.published e before
    · exact List.mem_singleton.mp new ▸ below
  cases step with
  | announce found at' => exact last (f := .created _) (known.handed _ _ _ found (by rw [at']; rfl)) mem
  | tell found at' => exact last (f := .closed _) (known.handed _ _ _ found (by rw [at']; rfl)) mem
  | publish found => exact last (f := .closed _) (known.teardowns _ _ found) mem
  | _ => exact known.published e mem

theorem knownStep : Known c' := by
  have grown {t : TunnelId} (below : t < c.service.tunnels.length) := Nat.lt_of_lt_of_le below (tunnelsGrow step)
  exact {
    handed := fun _ _ _ found tunnel => grown (handedKnownStep known keyed step found tunnel)
    lives := fun _ _ entry => grown (livesKnownStep known step entry)
    teardowns := fun _ _ found => grown (teardownsKnownStep known keyed step found)
    deliveries := fun r t mem => grown ((deliveryCame step mem).elim (known.deliveries r t) fun came => came.2.1)
    references := fun _ => referencesKnownStep known keyed step
    published := fun _ mem => grown (publishedKnownStep known step mem) }

end

theorem knownReachable (reachable : c.Reachable) : Known c := by
  have start : Known {} := ⟨by simp, by simp [Pool.entryAt?], by simp, by simp, by simp, by simp⟩
  refine reachableKeeps start (fun reachable step known => ?_) reachable
  exact knownStep known (keyedReachable reachable) step

def Mentions (c : Shared) : Action → Prop
  | .ask _ | .make .. => True
  | .advance r _ | .fail r _ | .abort r | .release r | .leave r => r < c.service.requests.length
  | .deliver r t => r < c.service.requests.length ∧ t < c.service.tunnels.length
  | .arrive t _ | .poll t | .act t _ _ | .share t | .letGo t | .dispose t | .destroy t =>
    t < c.service.tunnels.length
  | .teardown i => i < c.teardowns.length

theorem mentioned (known : Known c) (keyed : c.service.pool.Keyed) (moved : c.step a = some c') : c.Mentions a := by
  cases a with
  | ask | make => trivial
  | advance r | fail r | abort r | release r | leave r =>
    refine Nat.not_le.mp fun beyond => ?_
    have absent : c.service.requests[r]? = none := List.getElem?_eq_none beyond
    simp [step, Service.advance, Service.created, Service.abort, Service.release, absent] at moved
  | deliver r t =>
    obtain ⟨-, x, found⟩ := deliverMoved moved
    simp only [step] at moved
    split at moved
    · rename_i handed
      exact ⟨(List.getElem?_eq_some_iff.mp found).1, of_decide_eq_true (Bool.and_eq_true_iff.mp handed).2⟩
    · cases moved
  | arrive t | poll t | act t =>
    refine Nat.not_le.mp fun beyond => ?_
    have absent : c.service.tunnels[t]? = none := List.getElem?_eq_none beyond
    simp [step, changeTunnel, absent] at moved
  | share t | dispose t =>
    simp only [step] at moved
    split at moved
    · rename_i held
      exact heldKnown known keyed held
    · cases moved
  | letGo t =>
    simp only [step] at moved
    split at moved
    · rename_i among
      exact known.references t (by simpa using among)
    · cases moved
  | destroy t =>
    simp only [step] at moved
    split at moved
    · rename_i free
      have known : t < c.service.tunnels.length := of_decide_eq_true (Bool.and_eq_true_iff.mp free).2
      exact known
    · cases moved
  | teardown i =>
    refine Nat.not_le.mp fun beyond => ?_
    have absent : c.teardowns[i]? = none := List.getElem?_eq_none beyond
    simp [step, stepTeardown, absent] at moved

theorem mentionsGrow {d : Shared} {b : Action} (step : Step c a d) (mentions : c.Mentions b) : d.Mentions b := by
  have requests := requestsGrow step
  have tunnels := tunnelsGrow step
  cases b with
  | ask | make => trivial
  | advance | fail | abort | release | leave => exact Nat.lt_of_lt_of_le mentions requests
  | deliver => exact ⟨Nat.lt_of_lt_of_le mentions.1 requests, Nat.lt_of_lt_of_le mentions.2 tunnels⟩
  | teardown => exact Nat.lt_of_lt_of_le mentions (teardownsGrow step)
  | _ => exact Nat.lt_of_lt_of_le mentions tunnels

end TunnelRelay.Shared
