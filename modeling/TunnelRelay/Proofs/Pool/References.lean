import TunnelRelay.Proofs.Pool.Deliveries
import TunnelRelay.Proofs.Pool.Teardowns

/-! Who refers to a tunnel. Once all references are gone none comes back, and an open
tunnel that was handed over is always referred to. So a teardown that begins because
the last reference is gone finds a closed tunnel or one without handlers, and whoever
runs a handler still has a tunnel to publish. -/
namespace TunnelRelay
open Service (Request Stage)

def Teardown.Phase.notifying : Teardown.Phase → Bool
  | forgetting .. | publishing _ => true
  | _ => false

namespace Shared
open Teardown (Phase)

section
variable {c : Shared} {t : TunnelId}

theorem presentTunnel {x : Request} (present : x.gone = false) : x.tunnel? = x.stage.tunnel? := by
  unfold Request.tunnel?
  split
  · rename_i u at'
    simp [present, at', Stage.tunnel?]
  · rfl

theorem stageTunnel {x : Request} {stage : Stage} (tunnel : ({ x with stage } : Request).tunnel? = some t) :
    stage.tunnel? = some t := by
  unfold Request.tunnel? at tunnel
  split at tunnel
  · rename_i u at'
    split at tunnel
    · contradiction
    · cases tunnel
      exact congrArg Stage.tunnel? at'
  · exact tunnel

theorem stageHeld {r : Nat} {x : Request} (found : c.service.requests[r]? = some x)
    (accepted : x.stage.accepted? = some t) : c.held t = true := by
  refine requestHeld found ?_
  unfold Request.tunnel?
  split
  · rename_i u at'
    simp [at', Stage.accepted?] at accepted
  · exact acceptedTunnel accepted

end

theorem goesBusy {c c' : Shared} {t : TunnelId} {old new : Phase} (goes : Goes c c' t old new) : old ≠ .ended := by
  cases goes with
  | tear tears => cases tears <;> simp
  | _ => simp

theorem moveHeld {c c' : Shared} {a : Action} {q : Nat} {y : Request} {old new : Stage}
    (found : c.service.requests[q]? = some y) (at' : y.stage = old) (move : Move c c' a q y.profile.key old new)
    {t : TunnelId} (tunnel : new.tunnel? = some t) : c.held t = true := by
  cases move with
  | hit entry =>
    cases tunnel
    exact pooledHeld entry
  | deliver _ held =>
    cases tunnel
    exact held
  | promote => exact stageHeld found (at' ▸ tunnel)
  | settle => exact stageHeld found (at' ▸ tunnel)
  | announce => exact stageHeld found (at' ▸ tunnel)
  | watch => exact stageHeld found (at' ▸ tunnel)
  | overdue => exact stageHeld found (at' ▸ tunnel)
  | tell => exact stageHeld found (at' ▸ tunnel)
  | _ => contradiction

theorem requestBack {c c' : Shared} {a : Action} (step : Step c a c') {r : Nat} {x : Request} {t : TunnelId}
    (found : c'.service.requests[r]? = some x) (tunnel : x.tunnel? = some t) : c.held t = true := by
  cases requestCame step found with
  | same before => exact requestHeld before tunnel
  | asked p => contradiction
  | @moved y _ _ before at' move => exact moveHeld before at' move (stageTunnel (x := y) tunnel)
  | released before => exact requestHeld before tunnel
  | @left y before =>
    refine requestHeld before ?_
    simp only [Request.tunnel?] at tunnel ⊢
    split at tunnel <;> simp_all

theorem teardownBack {c c' : Shared} {a : Action} (step : Step c a c') {i : Nat} {d : Teardown}
    (found : c'.teardowns[i]? = some d) (borrowed : d.borrowed = true) (present : d.phase ≠ .ended) :
    c.held d.tunnel = true := by
  cases teardownCame step found with
  | same before => exact teardownHeld before borrowed present
  | begun _ truly => exact truly.symm.trans borrowed
  | @moved e _ _ before at' goes => exact teardownHeld (d := e) before borrowed (at' ▸ goesBusy goes)

theorem entryBack {c c' : Shared} {a : Action} (step : Step c a c') {k : ProfileKey} {t : TunnelId}
    (entry : c'.service.pool.entryAt? k = some (.live t)) : c.held t = true := by
  rcases liveCame step entry with before | ⟨r, x, n, found, -, at', -⟩
  · exact pooledHeld before
  · exact stageHeld found (congrArg Stage.accepted? at')

theorem referenceBack {c c' : Shared} {a : Action} (step : Step c a c')
    (lent : ∀ (i : Nat) d rest, c.teardowns[i]? = some d → d.phase = .publishing rest → d.borrowed = true)
    {t : TunnelId} (known : t < c.service.tunnels.length) (mem : t ∈ c'.references) : c.held t = true := by
  have old : t ∈ c.references → c.held t = true := fun before => by simp [held, before]
  have last : ∀ {u}, c.held u = true → t ∈ c.references ++ [u] → c.held t = true := by
    intro u held mem
    rcases List.mem_append.mp mem with before | new
    · exact old before
    · exact List.mem_singleton.mp new ▸ held
  cases step with
  | announce found at' => exact last (stageHeld found (congrArg Stage.accepted? at')) mem
  | tell found at' => exact last (stageHeld found (congrArg Stage.accepted? at')) mem
  | make =>
    rcases List.mem_append.mp mem with before | new
    · exact old before
    · exact absurd (List.mem_singleton.mp new) (Nat.ne_of_lt known)
  | refer among => exact among t mem
  | publish found at' => exact last (teardownHeld found (lent _ _ _ found at') (by simp [at'])) mem
  | _ => exact old mem

theorem heldBack {c c' : Shared} {a : Action} (step : Step c a c') (keyed : c.service.pool.Keyed)
    (lent : ∀ (i : Nat) d rest, c.teardowns[i]? = some d → d.phase = .publishing rest → d.borrowed = true)
    {t : TunnelId} (known : t < c.service.tunnels.length) (held' : c'.held t = true) : c.held t = true := by
  simp only [held, Bool.or_eq_true, List.any_eq_true] at held'
  rcases held' with ((mem | ⟨⟨k, e⟩, mem, live⟩) | ⟨x, mem, tunnel⟩) | ⟨d, mem, working⟩
  · exact referenceBack step lent known (by simpa using mem)
  · cases eq_of_beq live
    exact entryBack step ((Pool.entryMember (keyedStep step keyed)).mpr mem)
  · obtain ⟨r, found⟩ := List.mem_iff_getElem?.mp mem
    exact requestBack step found (by simpa using tunnel)
  · obtain ⟨i, found⟩ := List.mem_iff_getElem?.mp mem
    simp only [Bool.and_eq_true, bne_iff_ne, ne_eq, beq_iff_eq] at working
    obtain ⟨⟨borrowed, present⟩, rfl⟩ := working
    exact teardownBack step found borrowed present

def Closing (c : Shared) (t : TunnelId) : Prop :=
  c.service.isOpen t = false ∨ ∃ (i : Nat) (d : Teardown), c.teardowns[i]? = some d ∧ d.tunnel = t ∧
    d.borrowed = true ∧ d.phase = .flagging

structure Referred (c : Shared) : Prop where
  returned : ∀ (r : Nat) x, c.service.requests[r]? = some x → x.released = true → ∃ t, x.stage = .done (.ok t)
  gone : ∀ (r : Nat) x, c.service.requests[r]? = some x → x.gone = true → x.released = true
  closing : ∀ (r : Nat) x, c.service.requests[r]? = some x → ∀ t, (r, t) ∈ c.deliveries → x.released = true →
    c.Closing t
  watched : ∀ t l, c.service.life? t = some l → l.handlers ≠ [] → ∃ r, (r, t) ∈ c.deliveries
  unborrowed : ∀ (i : Nat) d, c.teardowns[i]? = some d → d.borrowed = false →
    c.held d.tunnel = false ∧ d.tunnel < c.service.tunnels.length ∧ d.phase.notifying = false ∧
      (d.phase.untaken = true → ∀ l, c.service.life? d.tunnel = some l → l.handlers = [])

theorem returnedStep {c c' : Shared} {a : Action} (step : Step c a c') (referred : Referred c) :
    ∀ (r : Nat) x, c'.service.requests[r]? = some x → x.released = true → ∃ t, x.stage = .done (.ok t) := by
  intro r x found released
  cases requestCame step found with
  | same before => exact referred.returned r _ before released
  | asked p => contradiction
  | @moved y _ _ before at' move =>
    obtain ⟨t, finished⟩ := referred.returned r y before released
    exact absurd (at'.symm.trans finished) (moveBusy move _)
  | released before at' => exact ⟨_, at'⟩
  | @left y before earlier => exact referred.returned r y before earlier

theorem goneStep {c c' : Shared} {a : Action} (step : Step c a c') (referred : Referred c) :
    ∀ (r : Nat) x, c'.service.requests[r]? = some x → x.gone = true → x.released = true := by
  intro r x found gone
  cases requestCame step found with
  | same before => exact referred.gone r _ before gone
  | asked p => contradiction
  | @moved y _ _ before => exact referred.gone r y before gone
  | released => rfl
  | left before earlier => exact earlier

theorem closingKept {c c' : Shared} {a : Action} (step : Step c a c') {t : TunnelId} {l : Lifecycle ProfileKey}
    (known : c.service.life? t = some l) (closing : c.Closing t) : c'.Closing t := by
  rcases closing with closed | ⟨i, d, found, rfl, borrowed, flagging⟩
  · exact .inl (closedAfter step known closed)
  · rcases teardownGoes step found with still | ⟨phase, -, goes⟩
    · exact .inr ⟨i, d, still, rfl, borrowed, flagging⟩
    · rw [flagging] at goes
      cases goes with
      | late life closed => exact .inl (closedAfter step known ((closedLife life).mpr closed))
      | tear tears _ now =>
        cases tears
        exact .inl ((closedLife now).mpr rfl)

theorem closingStep {c c' : Shared} {a : Action} (step : Step c a c') (handed : Handed c) (referred : Referred c) :
    ∀ (r : Nat) x, c'.service.requests[r]? = some x → ∀ t, (r, t) ∈ c'.deliveries → x.released = true →
      c'.Closing t := by
  intro r x found t mem released
  rcases deliveryCame step mem with old | ⟨-, -, n, y, -, -, now⟩
  · obtain ⟨l, life⟩ := handedLife handed old
    cases requestCame step found with
    | same before => exact closingKept step life (referred.closing r _ before t old released)
    | asked p => contradiction
    | @moved y _ _ before at' move =>
      obtain ⟨u, finished⟩ := referred.returned r y before released
      exact absurd (at'.symm.trans finished) (moveBusy move _)
    | released before at' begun =>
      cases handedSame handed before (congrArg Stage.tunnel? at') old
      exact .inr ⟨_, _, by rw [begun]; exact List.getElem?_concat_length, rfl, rfl, rfl⟩
    | left before earlier => exact closingKept step life (referred.closing r _ before t old earlier)
  · obtain ⟨u, finished⟩ := returnedStep step referred r x found released
    cases now.symm.trans found
    contradiction

theorem heldOpen {c : Shared} (handed : Handed c) (referred : Referred c) {r : Nat} {t : TunnelId}
    (mem : (r, t) ∈ c.deliveries) (opened : c.service.isOpen t = true) : c.held t = true := by
  obtain ⟨x, found, tunnel⟩ := handed.kept r t mem
  by_cases gone : x.gone = true
  · have closing := referred.closing r x found t mem (referred.gone r x found gone)
    rcases closing with closed | ⟨i, d, torn, rfl, borrowed, at'⟩
    · simp [opened] at closed
    · exact teardownHeld torn borrowed (by simp [at'])
  · exact requestHeld found ((presentTunnel (by simpa using gone)).trans tunnel)

theorem watchedStep {c c' : Shared} {a : Action} (step : Step c a c') (handed : Handed c) (referred : Referred c) :
    ∀ t l, c'.service.life? t = some l → l.handlers ≠ [] → ∃ r, (r, t) ∈ c'.deliveries := by
  intro t l known handlers
  have before : ∀ {m}, c.service.life? t = some m → m.handlers ≠ [] → ∃ r, (r, t) ∈ c'.deliveries := by
    intro m life some'
    obtain ⟨r, mem⟩ := referred.watched t m life some'
    exact ⟨r, deliveryKept step mem⟩
  cases lifeCame step known with
  | same life => exact before life handlers
  | made => exact absurd rfl handlers
  | watched _ _ found at' => exact ⟨_, deliveryKept step (handed.noted _ _ found t (congrArg Stage.accepted? at'))⟩
  | torn life _ _ _ tears =>
    cases tears with
    | take => exact absurd rfl handlers
    | _ => exact before life handlers

theorem emptyKept {c c' : Shared} {a : Action} (step : Step c a c') {t : TunnelId}
    (known : t < c.service.tunnels.length) (free : c.held t = false)
    (empty : ∀ l, c.service.life? t = some l → l.handlers = []) :
    ∀ l, c'.service.life? t = some l → l.handlers = [] := by
  intro l found
  cases lifeCame step found with
  | same life => exact empty l life
  | made new => exact absurd known (Nat.not_lt.mpr new)
  | watched _ _ asked at' => simp [stageHeld asked (congrArg Stage.accepted? at')] at free
  | torn life _ _ _ tears =>
    have before := empty _ life
    cases tears with
    | take => rfl
    | _ => exact before

theorem unheldEmpty {c : Shared} (handed : Handed c) (referred : Referred c) {t : TunnelId}
    (free : c.held t = false) {l : Lifecycle ProfileKey} (known : c.service.life? t = some l)
    (opened : l.closed = false) : l.handlers = [] := by
  cases handlers : l.handlers with
  | nil => rfl
  | cons key rest =>
    obtain ⟨r, mem⟩ := referred.watched t l known (by simp [handlers])
    simp [heldOpen handed referred mem (Service.isOpenLife.mpr ⟨l, known, opened⟩)] at free

theorem unborrowedStep {c c' : Shared} {a : Action} (step : Step c a c') (keyed : c.service.pool.Keyed)
    (handed : Handed c) (referred : Referred c) :
    ∀ (i : Nat) d, c'.teardowns[i]? = some d → d.borrowed = false →
      c'.held d.tunnel = false ∧ d.tunnel < c'.service.tunnels.length ∧ d.phase.notifying = false ∧
        (d.phase.untaken = true → ∀ l, c'.service.life? d.tunnel = some l → l.handlers = []) := by
  have lent : ∀ (i : Nat) d rest, c.teardowns[i]? = some d → d.phase = .publishing rest → d.borrowed = true := by
    intro i d rest found at'
    cases owned : d.borrowed with
    | true => rfl
    | false => simpa [at', Phase.notifying] using (referred.unborrowed i d found owned).2.2.1
  have absent : ∀ {t}, t < c.service.tunnels.length → c.held t = false →
      c'.held t = false ∧ t < c'.service.tunnels.length := by
    intro t known free
    refine ⟨?_, Nat.lt_of_lt_of_le known (tunnelsGrow step)⟩
    cases later : c'.held t with
    | false => rfl
    | true => simp [heldBack step keyed lent known later] at free
  intro i d found' owned
  cases teardownCame step found' with
  | same found =>
    obtain ⟨free, known, idle, empty⟩ := referred.unborrowed i d found owned
    obtain ⟨free', known'⟩ := absent known free
    exact ⟨free', known', idle, fun untaken => emptyKept step known free (empty untaken)⟩
  | begun _ truly known =>
    cases owned
    obtain ⟨free', known'⟩ := absent (known rfl) truly.symm
    exact ⟨free', known', rfl, by simp [Phase.untaken]⟩
  | @moved e _ _ found at' goes =>
    obtain ⟨free, known, idle, empty⟩ := referred.unborrowed i e found owned
    obtain ⟨free', known'⟩ := absent known free
    rw [at'] at idle empty
    cases goes with
    | late => exact ⟨free', known', rfl, by simp [Phase.untaken]⟩
    | forget => contradiction
    | publish => contradiction
    | tear tears life now =>
      have none' := emptyKept step known free
      cases tears with
      | flag opened =>
        refine ⟨free', known', rfl, fun _ => none' fun l other => ?_⟩
        cases life.symm.trans other
        exact unheldEmpty handed referred free life opened
      | cancel => exact ⟨free', known', rfl, fun _ => none' (empty rfl)⟩
      | unbind => exact ⟨free', known', rfl, fun _ => none' (empty rfl)⟩
      | take =>
        have nothing := empty rfl _ life
        exact ⟨free', known', by simp [nothing, Phase.notify, Phase.notifying],
          by simp [nothing, Phase.notify, Phase.untaken]⟩

theorem referredStep {c c' : Shared} {a : Action} (step : Step c a c') (keyed : c.service.pool.Keyed)
    (handed : Handed c) (referred : Referred c) : Referred c' :=
  ⟨returnedStep step referred, goneStep step referred, closingStep step handed referred,
    watchedStep step handed referred, unborrowedStep step keyed handed referred⟩

theorem referredReachable {c : Shared} (reachable : c.Reachable) : Referred c := by
  refine reachableKeeps ⟨by simp, by simp, by simp, by simp [Service.life?], by simp⟩ ?_ reachable
  intro c c' a reachable step referred
  exact referredStep step (keyedReachable reachable) (handedReachable reachable) referred

/- Whoever runs a handler refers to the tunnel, so that there is a tunnel to publish. -/
theorem notifyingHeld {c : Shared} (referred : Referred c) {i : Nat} {d : Teardown} (found : c.teardowns[i]? = some d)
    (notifying : d.phase.notifying = true) : c.held d.tunnel = true := by
  cases borrowed : d.borrowed with
  | true =>
    refine teardownHeld found borrowed ?_
    rintro finished
    simp [finished, Phase.notifying] at notifying
  | false => simp [(referred.unborrowed i d found borrowed).2.2.1] at notifying

end Shared
end TunnelRelay
