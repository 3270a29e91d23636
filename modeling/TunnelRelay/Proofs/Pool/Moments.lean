import TunnelRelay.Proofs.Pool.History
import TunnelRelay.Proofs.Pool.Stability

/-! What is true when an event is published. The end of a tunnel is published once the
tunnel is closed and cancelled, has released its socket and is out of the pool; its
creation while the pool has it, unless it was refused there or has been closed. The
teardown of a tunnel is taken to be undivided here: a request that comes to watch a
tunnel in the middle of a teardown publishes its end before the socket is released. -/
namespace TunnelRelay.Shared
open Service (Request Stage Event)
open Teardown (Phase)

theorem undividedKeeps {P : Shared → Prop} (keeps : ∀ {c c' a}, c.Yields a → Step c a c' → P c → P c')
    {c c' : Shared} {actions : List Action} (undivided : Undivided c actions) (before : P c)
    (ran : c.run actions = some c') : P c' := by
  induction actions generalizing c with
  | nil =>
    cases Option.some.inj ran
    exact before
  | cons a rest ih =>
    obtain ⟨next, moved, ran⟩ := Option.bind_eq_some_iff.mp ran
    exact ih (undivided.2 next moved) (keeps undivided.1 (stepCases moved) before) ran

theorem publishedClosed {c c' : Shared} {a : Action} (step : Step c a c') {t : TunnelId}
    (published : c'.service.published = c.service.published ++ [.closed t]) :
    c'.service.pool = c.service.pool ∧
      ((∃ (r : Nat) (x : Request), c.service.requests[r]? = some x ∧ x.stage = .telling t) ∨
        ∃ (i : Nat) (d : Teardown) (rest : List ProfileKey), c.teardowns[i]? = some d ∧ d.tunnel = t ∧
          d.phase = .publishing rest) := by
  cases step with
  | announce => simp at published
  | tell found at' =>
    cases List.append_cancel_left published
    exact ⟨rfl, .inl ⟨_, _, found, at'⟩⟩
  | publish found at' =>
    refine ⟨rfl, .inr ⟨_, _, _, found, ?_, at'⟩⟩
    simpa using published
  | _ => simp [staged, lived, begin] at published

theorem publishedCreated {c c' : Shared} {a : Action} (step : Step c a c') {t : TunnelId}
    (published : c'.service.published = c.service.published ++ [.created t]) :
    c'.service.pool = c.service.pool ∧
      ∃ (r : Nat) (x : Request), c.service.requests[r]? = some x ∧ x.stage = .announcing t := by
  cases step with
  | announce found at' =>
    refine ⟨rfl, _, _, found, ?_⟩
    simpa [at'] using published
  | tell => simp at published
  | publish => simp at published
  | _ => simp [staged, lived, begin] at published

theorem owesDue {t : TunnelId} {k : ProfileKey} {d : Teardown} (tunnel : d.tunnel = t) (due : k ∈ d.phase.due) :
    0 < owes t d := by
  cases at' : d.phase <;> simp_all [owes, Phase.due, Phase.unpublished]

theorem owingOwed {c : Shared} {t : TunnelId} {k : ProfileKey} (owing : c.Owing t k) : 0 < c.owed t := by
  rcases owing with ⟨l, known, mem⟩ | ⟨i, d, found, tunnel, due⟩
  · have some' : 0 < l.handlers.length := List.length_pos_of_mem mem
    simp only [owed, handlerCount, known]
    omega
  · have member := owedMember (t := t) found
    have some' := owesDue tunnel due
    simp only [owed]
    omega

theorem pooledDue {c : Shared} (reachable : c.Reachable) (fresh : c.Fresh) {r : Nat} {x : Request} {t : TunnelId}
    (mem : (r, t) ∈ c.deliveries) (found : c.service.requests[r]? = some x) {k : ProfileKey}
    (entry : c.service.pool.entryAt? k = some (.live t)) : x.stage.unwatched = true ∨ c.Owing t k := by
  obtain ⟨q, y, mem', found', -, why⟩ := rootedReachable reachable k t entry
  cases freshSame fresh mem mem'
  cases found.symm.trans found'
  exact why

theorem unpooledUnowed {c : Shared} (reachable : c.Reachable) (fresh : c.Fresh) {r : Nat} {x : Request}
    {t : TunnelId} (mem : (r, t) ∈ c.deliveries) (found : c.service.requests[r]? = some x)
    (watched : x.stage.unwatched = false) (nothing : c.owed t = 0) (k : ProfileKey) :
    c.service.pool.entryAt? k ≠ some (.live t) := by
  intro entry
  rcases pooledDue reachable fresh mem found entry with unwatched | owing
  · simp [watched] at unwatched
  · have some' := owingOwed owing
    omega

theorem unpooledEarly {c : Shared} (reachable : c.Reachable) (fresh : c.Fresh) {r : Nat} {x : Request} {a : Nat}
    {t : TunnelId} (found : c.service.requests[r]? = some x) (at' : x.stage = .promoting a t) (k : ProfileKey) :
    c.service.pool.entryAt? k ≠ some (.live t) := by
  have mem := (handedReachable reachable).noted r x found t (congrArg Stage.accepted? at')
  have due := (balancedReachable reachable fresh).handed r x t mem found
  rw [at'] at due
  exact unpooledUnowed reachable fresh mem found (congrArg Stage.unwatched at') due.2 k

theorem unpooledTelling {c : Shared} (reachable : c.Reachable) (fresh : c.Fresh) {r : Nat} {x : Request}
    {t : TunnelId} (found : c.service.requests[r]? = some x) (at' : x.stage = .telling t) (k : ProfileKey) :
    c.service.pool.entryAt? k ≠ some (.live t) := by
  have mem := (handedReachable reachable).noted r x found t (congrArg Stage.accepted? at')
  have due := (balancedReachable reachable fresh).handed r x t mem found
  rw [at'] at due
  exact unpooledUnowed reachable fresh mem found (congrArg Stage.unwatched at') due.2.1 k

/- The one publication that is owed is the one in hand, so that nothing else is owed. -/
theorem unpooledPublishing {c : Shared} (reachable : c.Reachable) (fresh : c.Fresh) {i : Nat} {d : Teardown}
    {rest : List ProfileKey} (found : c.teardowns[i]? = some d) (at' : d.phase = .publishing rest)
    (k : ProfileKey) : c.service.pool.entryAt? k ≠ some (.live d.tunnel) := by
  intro entry
  have hand : owes d.tunnel d = rest.length + 1 := by simp [owes, at', Phase.unpublished]
  have member := owedMember (t := d.tunnel) found
  have total : c.owed d.tunnel = handlerCount c.service d.tunnel + owedBy d.tunnel c.teardowns := rfl
  obtain ⟨r, x, mem, known, -, -⟩ := rootedReachable reachable k d.tunnel entry
  have due := (balancedReachable reachable fresh).handed r x d.tunnel mem known
  obtain ⟨one, result, finished⟩ := dueOwed due (by omega)
  rcases pooledDue reachable fresh mem known entry with unwatched | ⟨l, life, handler⟩ | ⟨j, e, other, tunnel, later⟩
  · simp [finished, Stage.unwatched] at unwatched
  · have count : 0 < handlerCount c.service d.tunnel := by
      simp only [handlerCount, life]
      exact List.length_pos_of_mem handler
    omega
  · by_cases same : i = j
    · subst same
      cases found.symm.trans other
      rw [at'] at later
      have more : 0 < rest.length := List.length_pos_of_mem later
      omega
    · have both := owedApart (t := d.tunnel) found other same
      have some' := owesDue tunnel later
      omega

def Tidy (c : Shared) : Prop :=
  ∀ (r : Nat) (x : Request), c.service.requests[r]? = some x → ∀ t, x.stage = .telling t →
    ∃ l, c.service.life? t = some l ∧ l.closed = true ∧ l.cancelled = true ∧ l.listening = false

theorem tidyStep {c c' : Shared} {a : Action} (yields : c.Yields a) (step : Step c a c') (orderly : Orderly c)
    (tidy : Tidy c) : Tidy c' := by
  intro r x found t at'
  have still : ∀ {l}, c.service.life? t = some l → l.closed = true → l.cancelled = true → l.listening = false →
      ∃ l, c'.service.life? t = some l ∧ l.closed = true ∧ l.cancelled = true ∧ l.listening = false := by
    intro l known closed cancelled released
    obtain ⟨l', known', grows⟩ := lifeGrows step known
    exact ⟨l', known', grows.closed closed, grows.cancelled cancelled, grows.released released⟩
  have earlier : ∀ {y}, c.service.requests[r]? = some y → y.stage = .telling t →
      ∃ l, c'.service.life? t = some l ∧ l.closed = true ∧ l.cancelled = true ∧ l.listening = false := by
    intro y before telling
    obtain ⟨l, known, closed, cancelled, released⟩ := tidy r y before t telling
    exact still known closed cancelled released
  cases requestCame step found with
  | same before => exact earlier before at'
  | asked p => contradiction
  | moved before _ move =>
    cases move with
    | overdue acted known closed =>
      cases at'
      rcases orderly.overtaken t _ known closed with ⟨-, cancelled, released⟩ | ⟨i, d, torn, -, untaken⟩
      · exact still known closed cancelled released
      · -- the teardown on its way would have had to go on
        obtain ⟨bound, -⟩ := List.getElem?_eq_some_iff.mp torn
        have forced := yields i bound (by simp [torn, Teardown.untakenWorking untaken])
        simp [acted, Action.teardown?] at forced
    | _ => contradiction
  | released before => exact earlier before at'
  | left before => exact earlier before at'

theorem tidyRun {c : Shared} {actions : List Action} (undivided : Undivided {} actions)
    (ran : run {} actions = some c) : Tidy c := by
  have both : Orderly c ∧ Tidy c := by
    have start : Orderly {} ∧ Tidy {} := ⟨orderlyReachable ⟨[], rfl⟩, by simp [Tidy]⟩
    refine undividedKeeps (P := fun d => Orderly d ∧ Tidy d) ?_ undivided start ran
    rintro c c' a yields step ⟨orderly, tidy⟩
    exact ⟨orderlyStep step orderly, tidyStep yields step orderly tidy⟩
  exact both.2

theorem promotedOnce {c c' : Shared} {a : Action} (step : Step c a c') (handed : Handed c) {r : Nat}
    {x x' : Request} {t : TunnelId} (mem : (r, t) ∈ c.deliveries) (found : c.service.requests[r]? = some x)
    (past : ∀ b u, x.stage ≠ .promoting b u) (found' : c'.service.requests[r]? = some x') :
    ∀ b u, x'.stage ≠ .promoting b u := by
  intro b u at'
  obtain ⟨y, known, tunnel⟩ := handed.kept r t mem
  cases found.symm.trans known
  cases requestCame step found' with
  | same before =>
    cases found.symm.trans before
    exact past b u at'
  | asked p => contradiction
  | moved before waiting move =>
    cases found.symm.trans before
    cases move with
    | deliver n =>
      rw [waiting] at tunnel
      contradiction
    | _ => contradiction
  | released before =>
    cases found.symm.trans before
    exact past b u at'
  | left before =>
    cases found.symm.trans before
    exact past b u at'

structure Refused (r : Nat) (t : TunnelId) (c : Shared) : Prop where
  handed : Handed c
  mem : (r, t) ∈ c.deliveries
  past : ∀ x, c.service.requests[r]? = some x → ∀ b u, x.stage ≠ .promoting b u
  absent : ∀ k, c.service.pool.entryAt? k ≠ some (.live t)

theorem refusedStep {c c' : Shared} {a : Action} (step : Step c a c') (fresh : c'.Fresh) {r : Nat} {t : TunnelId}
    (refused : Refused r t c) : Refused r t c' := by
  obtain ⟨handed, mem, past, absent⟩ := refused
  obtain ⟨x, found, -⟩ := handed.kept r t mem
  refine ⟨handedStep step handed, deliveryKept step mem, ?past, ?absent⟩
  case past =>
    intro x' found'
    exact promotedOnce step handed mem found (past x found) found'
  case absent =>
    intro k entry
    rcases liveCame step entry with before | ⟨q, x, n, other, -, at', -⟩
    · exact absent k before
    · -- only the request that was handed the tunnel could bring it in
      cases acceptedOnce handed (freshBefore step fresh) other (congrArg Stage.accepted? at') mem
      exact past x other n t at'

theorem refusedRun {c c' : Shared} {actions : List Action} {r : Nat} {t : TunnelId} (refused : Refused r t c)
    (ran : c.run actions = some c') (fresh : c'.Fresh) : Refused r t c' := by
  refine runKeeps (P := fun d => d.Fresh → Refused r t d) ?_ (fun _ => refused) ran fresh
  intro c c' a step before fresh
  exact refusedStep step fresh (before (freshBefore step fresh))

theorem lostRefused {c c' : Shared} (reachable : c.Reachable) (fresh : c.Fresh) {r n : Nat} {b : Bool} {x : Request}
    {t : TunnelId} (found : c.service.requests[r]? = some x) (at' : x.stage = .promoting n t)
    (lost : (c.service.pool.promote c.service.isOpen x.profile.key t).2 = false)
    (moved : c.step (.advance r b) = some c') :
    Refused r t c' ∧ ∃ u, u ≠ t ∧ c.service.pool.lookup c.service.isOpen x.profile.key = some u := by
  have early := unpooledEarly reachable fresh found at'
  obtain ⟨u, looked, same⟩ := Pool.promoteLoses lost
  refine ⟨?refused, u, ?different, looked⟩
  case refused =>
    have handed := handedReachable (reachableStep reachable moved)
    cases (promoteStep found at' b).symm.trans moved
    refine ⟨handed, (handedReachable reachable).noted r x found t (congrArg Stage.accepted? at'), ?_, ?_⟩
    · intro y known m v stage
      cases (setSelf found _).symm.trans known
      contradiction
    · intro k entry
      exact early k (same ▸ entry)
  case different =>
    rintro rfl
    exact early _ (Pool.lookupOpen.mp looked).1

structure PromotedAt (actions : List Action) (t : TunnelId) (before : List Action) (c : Shared) (r : Nat)
    (x : Request) : Prop where
  split : ∃ b between, actions = before ++ .advance r b :: between
  ran : run {} before = some c
  found : c.service.requests[r]? = some x
  at' : ∃ a, x.stage = .promoting a t

def Decided (t : TunnelId) (stage : Stage) : Prop := (∃ a, stage = .settling a t) ∨ stage = .announcing t

theorem promotedExtend {actions before : List Action} {t : TunnelId} {c : Shared} {r : Nat} {x : Request}
    (promoted : PromotedAt actions t before c r x) (a : Action) : PromotedAt (actions ++ [a]) t before c r x := by
  obtain ⟨b, between, rfl⟩ := promoted.split
  exact ⟨⟨b, between ++ [a], by simp⟩, promoted.ran, promoted.found, promoted.at'⟩

theorem decidedStep {c c' : Shared} {a : Action} {actions : List Action} {t : TunnelId} (step : Step c a c')
    (ran : run {} actions = some c)
    (promoted : ∀ (r : Nat) x, c.service.requests[r]? = some x → Decided t x.stage →
      ∃ before d y, PromotedAt actions t before d r y) :
    ∀ (r : Nat) x, c'.service.requests[r]? = some x → Decided t x.stage →
      ∃ before d y, PromotedAt (actions ++ [a]) t before d r y := by
  intro r x found decided
  have earlier : ∀ {y}, c.service.requests[r]? = some y → Decided t y.stage →
      ∃ before d z, PromotedAt (actions ++ [a]) t before d r z := by
    intro y before still
    obtain ⟨before, d, z, here⟩ := promoted r y before still
    exact ⟨before, d, z, promotedExtend here a⟩
  cases requestCame step found with
  | same before => exact earlier before decided
  | asked p => simp [Decided] at decided
  | @moved y _ _ before at' move =>
    cases move with
    | @promote n u b acted =>
      have same : u = t := by simpa [Decided] using decided
      exact ⟨actions, c, y, ⟨⟨b, [], by rw [acted]⟩, ran, before, ⟨n, same ▸ at'⟩⟩⟩
    | settle n u =>
      have same : u = t := by simpa [Decided] using decided
      exact earlier before (.inl ⟨n, same ▸ at'⟩)
    | _ => simp [Decided] at decided
  | released before => exact earlier before decided
  | left before => exact earlier before decided

theorem decidedRun {actions : List Action} {c : Shared} {t : TunnelId} (ran : run {} actions = some c) :
    ∀ (r : Nat) x, c.service.requests[r]? = some x → Decided t x.stage →
      ∃ before d y, PromotedAt actions t before d r y := by
  induction actions using List.reverseRecOn generalizing c with
  | nil =>
    cases Option.some.inj ran
    simp
  | append_singleton actions a ih =>
    obtain ⟨d, earlier, moved⟩ := runLast ran
    exact decidedStep (stepCases moved) earlier (ih earlier)

/- When the end of a tunnel is published, the tunnel is closed, cancelled, off its socket
and, being made anew, out of the pool; every other open tunnel is still where it was. When
its creation is published, the tunnel was decided on earlier in the run: it is in the pool
if it won there and is open, and is not if another open tunnel was there before it. -/
theorem eventsConsistent {actions : List Action} {c c' : Shared} {a : Action} (undivided : Undivided {} actions)
    (ran : run {} actions = some c) (moved : c.step a = some c') :
    (∀ t, c'.service.published = c.service.published ++ [.closed t] →
      (∃ l, c.service.life? t = some l ∧ l.closed = true ∧ l.cancelled = true ∧ l.listening = false) ∧
      (c.Fresh → ∀ k, (k, .live t) ∉ c.service.pool.entries) ∧
      c'.service.pool = c.service.pool ∧
      ∀ before between d k u, actions = before ++ between → run {} before = some d →
        d.service.pool.entryAt? k = some (.live u) → c.service.isOpen u = true →
        c.service.pool.entryAt? k = some (.live u)) ∧
    (∀ t, c'.service.published = c.service.published ++ [.created t] →
      c'.service.pool = c.service.pool ∧
      (∃ before d r x, PromotedAt actions t before d r x) ∧
      ∀ before d r x, PromotedAt actions t before d r x →
        ((d.service.pool.promote d.service.isOpen x.profile.key t).2 = true → c.service.isOpen t = true →
          t ∈ c.service.pool.members c.service.isOpen) ∧
        ((d.service.pool.promote d.service.isOpen x.profile.key t).2 = false → c.Fresh →
          t ∉ c.service.pool.members c.service.isOpen ∧
          ∃ u, u ≠ t ∧ d.service.pool.lookup d.service.isOpen x.profile.key = some u)) := by
  have reachable : c.Reachable := ⟨actions, ran⟩
  have step := stepCases moved
  have keyed := keyedReachable reachable
  refine ⟨fun t published => ?closed, fun t published => ⟨?same, ?decided, fun before d r x promoted => ?created⟩⟩
  case closed =>
    obtain ⟨same, publisher⟩ := publishedClosed step published
    have others : ∀ before between d k u, actions = before ++ between → run {} before = some d →
        d.service.pool.entryAt? k = some (.live u) → c.service.isOpen u = true →
        c.service.pool.entryAt? k = some (.live u) := by
      rintro before between d k u rfl earlier entry opened
      exact (pooledRun ⟨before, earlier⟩ entry (runSplit ran earlier)).entry opened
    rcases publisher with ⟨r, x, found, at'⟩ | ⟨i, d, rest, found, rfl, at'⟩
    · refine ⟨tidyRun undivided ran r x found t at', fun fresh k entry => ?_, same, others⟩
      exact unpooledTelling reachable fresh found at' k ((Pool.entryMember keyed).mpr entry)
    · obtain ⟨l, known, reached⟩ := (orderlyReachable reachable).reached i d found
      rw [at'] at known reached
      refine ⟨⟨l, known (by simp), reached⟩, fun fresh k entry => ?_, same, others⟩
      exact unpooledPublishing reachable fresh found at' k ((Pool.entryMember keyed).mpr entry)
  case same => exact (publishedCreated step published).1
  case decided =>
    obtain ⟨-, r, x, found, at'⟩ := publishedCreated step published
    obtain ⟨before, d, y, promoted⟩ := decidedRun ran r x found (.inr at')
    exact ⟨before, d, r, y, promoted⟩
  case created =>
    obtain ⟨⟨b, between, rfl⟩, earlier, found, n, at'⟩ := promoted
    have there : d.Reachable := ⟨before, earlier⟩
    have later := runSplit ran earlier
    obtain ⟨e, next, onward⟩ := Option.bind_eq_some_iff.mp later
    have after : e.Reachable := reachableStep there next
    refine ⟨fun won opened => ?won, fun lost fresh => ?lost⟩
    case won =>
      have entry := promotedEntry found at' won next
      exact (Pool.memberEntry keyed).mpr ⟨opened, _, (pooledRun after entry onward).entry opened⟩
    case lost =>
      obtain ⟨refused, other⟩ := lostRefused there (freshRun later fresh) found at' lost next
      refine ⟨fun member => ?_, other⟩
      obtain ⟨-, k, entry⟩ := (Pool.memberEntry keyed).mp member
      exact (refusedRun refused onward fresh).absent k entry

theorem eventsConsistentRivals :
    let early := asking desktop 0 ++ asking desktop 1 ++ making 0 0
    let first := early ++ [.advance 0 false, .advance 0 false]
    let late := first ++ [.advance 0 false, .advance 0 false] ++ making 1 1
    let second := late ++ [.advance 1 false, .advance 1 false]
    let last := second ++ [.dispose 0] ++ List.replicate 5 (.teardown 0)
    0 ∈ (after first).service.pool.members (after first).service.isOpen ∧
      1 ∉ (after second).service.pool.members (after second).service.isOpen ∧
      (∀ k, (k, .live 0) ∉ (after last).service.pool.entries) ∧
      ∃ l, (after last).service.life? 0 = some l ∧ l.closed = true ∧ l.cancelled = true ∧ l.listening = false := by
  intro early first late second last
  have calmFirst : Undivided {} first := by decide
  have calmSecond : Undivided {} second := by decide
  have calmLast : Undivided {} last := by decide
  have won := (eventsConsistent (c := after first) (a := .advance 0 false) calmFirst rfl rfl).2 0 rfl
  have lost := (eventsConsistent (c := after second) (a := .advance 1 false) calmSecond rfl rfl).2 1 rfl
  have finished := (eventsConsistent (c := after last) (a := .teardown 0) calmLast rfl rfl).1 0 rfl
  have promotedFirst : PromotedAt first 0 early (after early) 0 { profile := desktop, stage := .promoting 0 0 } :=
    ⟨⟨false, [.advance 0 false], rfl⟩, rfl, rfl, ⟨0, rfl⟩⟩
  have promotedSecond : PromotedAt second 1 late (after late) 1 { profile := desktop, stage := .promoting 1 1 } :=
    ⟨⟨false, [.advance 1 false], rfl⟩, rfl, rfl, ⟨1, rfl⟩⟩
  refine ⟨(won.2.2 _ _ _ _ promotedFirst).1 (by decide) (by decide), ?_, finished.2.1 (by decide), finished.1⟩
  exact ((lost.2.2 _ _ _ _ promotedSecond).2 (by decide) (by decide)).1

end TunnelRelay.Shared
