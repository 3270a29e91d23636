import TunnelRelay.Pool.Shared
import TunnelRelay.Proofs.Pool.Entries
import TunnelRelay.Proofs.Tunnel.Frames

/-! What one step of a shared service can do, written out once. `Step` lists the
steps with all that they change; every invariant is a case analysis over it. -/
namespace TunnelRelay
open Service (Request Stage)

namespace Service

def life? (s : Service) (t : TunnelId) : Option (Lifecycle ProfileKey) := s.tunnels[t]?.map (·.life)

def Stage.attempt? : Stage → Option Nat
  | creating a | promoting a _ | settling a _ => some a
  | _ => none

def Stage.accepted? : Stage → Option TunnelId
  | promoting _ t | settling _ t | announcing t | watching t | telling t => some t
  | _ => none

theorem isOpenLife {s : Service} {t : TunnelId} :
    s.isOpen t = true ↔ ∃ life, s.life? t = some life ∧ life.closed = false := by
  simp only [isOpen, life?, Option.any_eq_true, Option.map_eq_some_iff]
  constructor
  · rintro ⟨x, found, opened⟩
    exact ⟨x.life, ⟨x, found, rfl⟩, by simpa using opened⟩
  · rintro ⟨life, ⟨x, found, rfl⟩, opened⟩
    exact ⟨x, found, by simpa using opened⟩

end Service

namespace Shared

def staged (s : Service) (r : Nat) (x : Request) (stage : Stage) : Service :=
  { s with requests := s.requests.set r { x with stage } }

def lived (s : Service) (t : TunnelId) (y : Tunnel ProfileKey) (life : Lifecycle ProfileKey) : Service :=
  { s with tunnels := s.tunnels.set t { y with life } }

theorem setStageFound {s : Service} {r : Nat} {x : Request} (found : s.requests[r]? = some x) (stage : Stage) :
    s.setStage r stage = staged s r x stage := by
  simp [Service.setStage, staged, found]

theorem setLifeFound {s : Service} {t : TunnelId} {y : Tunnel ProfileKey} (found : s.tunnels[t]? = some y)
    (life : Lifecycle ProfileKey) : s.setLife t life = lived s t y life := by
  simp [Service.setLife, lived, found]

def phased (c : Shared) (i : Nat) (d : Teardown) (phase : Teardown.Phase) : List Teardown :=
  c.teardowns.set i { d with phase }

inductive Step (c : Shared) : Action → Shared → Prop where
  | ask (p : Profile) :
      Step c (.ask p) { c with service := { c.service with requests := c.service.requests ++ [{ profile := p }] } }
  | walk {r b x stage} (found : c.service.requests[r]? = some x)
      (free : x.stage = .entering ∧ (stage = .looking ∨ ∃ e, stage = .done (.error e)) ∨
        x.stage = .looking ∧ stage = .registering) :
      Step c (.advance r b) { c with service := staged c.service r x stage }
  | hit {r b x t} (found : c.service.requests[r]? = some x) (at' : x.stage = .looking)
      (pooled : c.service.pool.lookup c.service.isOpen x.profile.key = some t) :
      Step c (.advance r b) { c with service := staged c.service r x (.done (.ok t)) }
  | register {r b x} (found : c.service.requests[r]? = some x) (at' : x.stage = .registering) :
      Step c (.advance r b) { c with service :=
        { staged c.service r x (.creating c.service.pool.nextAttempt) with
          pool := (c.service.pool.register c.service.isOpen x.profile.key).1 } }
  | promote {r b x a t} (found : c.service.requests[r]? = some x) (at' : x.stage = .promoting a t) :
      Step c (.advance r b) { c with service := { staged c.service r x (.settling a t) with
        pool := (c.service.pool.promote c.service.isOpen x.profile.key t).1 } }
  | settle {r b x a t} (found : c.service.requests[r]? = some x) (at' : x.stage = .settling a t) :
      Step c (.advance r b) { c with service := { staged c.service r x (.announcing t) with
        pool := c.service.pool.abandon x.profile.key a } }
  | announce {r b x t} (found : c.service.requests[r]? = some x) (at' : x.stage = .announcing t) :
      Step c (.advance r b) { c with
        service := { staged c.service r x (.watching t) with published := c.service.published ++ [.created t] }
        references := c.references ++ [t] }
  | watch {r b x t y} (found : c.service.requests[r]? = some x) (at' : x.stage = .watching t)
      (tunnel : c.service.tunnels[t]? = some y) (opened : y.life.closed = false) :
      Step c (.advance r b) { c with
        service := staged (lived c.service t y { y.life with handlers := y.life.handlers ++ [x.profile.key] })
          r x (.done (.ok t)) }
  | overdue {r b x t y} (found : c.service.requests[r]? = some x) (at' : x.stage = .watching t)
      (tunnel : c.service.tunnels[t]? = some y) (closed : y.life.closed = true) :
      Step c (.advance r b) { c with service := { staged (lived c.service t y y.life) r x (.telling t) with
        pool := c.service.pool.remove x.profile.key t } }
  | tell {r b x t} (found : c.service.requests[r]? = some x) (at' : x.stage = .telling t) :
      Step c (.advance r b) { c with
        service := { staged c.service r x (.done (.ok t)) with published := c.service.published ++ [.closed t] }
        references := c.references ++ [t] }
  | deliver {r t x a} (held : c.held t = true) (known : t < c.service.tunnels.length)
      (found : c.service.requests[r]? = some x) (at' : x.stage = .creating a) :
      Step c (.deliver r t) { c with
        service := staged c.service r x (.promoting a t), deliveries := c.deliveries ++ [(r, t)] }
  | giveUp {action r x a stage} (found : c.service.requests[r]? = some x) (at' : x.stage = .creating a)
      (finished : action = .abort r ∧ stage = .aborted ∨ ∃ e, action = .fail r e ∧ stage = .done (.error e)) :
      Step c action { c with service := { staged c.service r x stage with
        pool := c.service.pool.abandon x.profile.key a } }
  | make (admission bufferSize statistics) :
      Step c (.make admission bufferSize statistics) { c with
        service := { c.service with tunnels := c.service.tunnels ++ [.make admission bufferSize statistics] }
        references := c.references ++ [c.service.tunnels.length] }
  | relay {action t y y'} (tunnel : c.service.tunnels[t]? = some y) (life : y'.life = y.life)
      (admission : y'.admission = y.admission) :
      Step c action { c with service := { c.service with tunnels := c.service.tunnels.set t y' } }
  | refer {action references} (known : ∀ t ∈ references, c.held t = true) : Step c action { c with references }
  | begin {action t borrowed} (truly : borrowed = c.held t)
      (known : borrowed = false → t < c.service.tunnels.length) : Step c action (c.begin t borrowed)
  | release {r x t} (found : c.service.requests[r]? = some x) (at' : x.stage = .done (.ok t))
      (present : x.gone = false) :
      Step c (.release r) (Shared.begin { c with service :=
        { c.service with requests := c.service.requests.set r { x with released := true } } } t true)
  | leave {r x} (found : c.service.requests[r]? = some x) (released : x.released = true) :
      Step c (.leave r) { c with service :=
        { c.service with requests := c.service.requests.set r { x with gone := true } } }
  | late {i d y} (found : c.teardowns[i]? = some d) (at' : d.phase = .flagging)
      (tunnel : c.service.tunnels[d.tunnel]? = some y) (closed : y.life.closed = true) :
      Step c (.teardown i) { c with teardowns := c.phased i d .ended }
  | flag {i d y} (found : c.teardowns[i]? = some d) (at' : d.phase = .flagging)
      (tunnel : c.service.tunnels[d.tunnel]? = some y) (opened : y.life.closed = false) :
      Step c (.teardown i) { c with
        service := lived c.service d.tunnel y { y.life with closed := true }, teardowns := c.phased i d .cancelling }
  | cancel {i d y} (found : c.teardowns[i]? = some d) (at' : d.phase = .cancelling)
      (tunnel : c.service.tunnels[d.tunnel]? = some y) :
      Step c (.teardown i) { c with
        service := lived c.service d.tunnel y { y.life with cancelled := true }
        teardowns := c.phased i d .releasing }
  | unbind {i d y} (found : c.teardowns[i]? = some d) (at' : d.phase = .releasing)
      (tunnel : c.service.tunnels[d.tunnel]? = some y) :
      Step c (.teardown i) { c with
        service := lived c.service d.tunnel y { y.life with listening := false }
        teardowns := c.phased i d .taking }
  | take {i d y} (found : c.teardowns[i]? = some d) (at' : d.phase = .taking)
      (tunnel : c.service.tunnels[d.tunnel]? = some y) :
      Step c (.teardown i) { c with
        service := lived c.service d.tunnel y { y.life with handlers := [] }
        teardowns := c.phased i d (.notify y.life.handlers) }
  | forget {i d key rest phase} (found : c.teardowns[i]? = some d) (at' : d.phase = .forgetting key rest)
      (next : c.held d.tunnel = true ∧ phase = .publishing rest ∨ c.held d.tunnel = false ∧ phase = .notify rest) :
      Step c (.teardown i) { c with
        service := { c.service with pool := c.service.pool.remove key d.tunnel }, teardowns := c.phased i d phase }
  | publish {i d rest} (found : c.teardowns[i]? = some d) (at' : d.phase = .publishing rest) :
      Step c (.teardown i) { c with
        service := { c.service with published := c.service.published ++ [.closed d.tunnel] }
        references := c.references ++ [d.tunnel], teardowns := c.phased i d (.notify rest) }

theorem withServiceSame {c : Shared} {s : Service} (same : s.published = c.service.published) :
    c.withService s = { c with service := s } := by
  simp [withService, same]

theorem withServicePublished {c : Shared} {s : Service} {e : Service.Event}
    (more : s.published = c.service.published ++ [e]) :
    c.withService s = { c with service := s, references := c.references ++ [e.tunnel] } := by
  simp [withService, more]

theorem Step.silent {c : Shared} {a : Action} {s : Service} (step : Step c a { c with service := s })
    (same : s.published = c.service.published) : Step c a (c.withService s) :=
  (withServiceSame same).symm ▸ step

theorem Step.heard {c : Shared} {a : Action} {s : Service} {e : Service.Event}
    (step : Step c a { c with service := s, references := c.references ++ [e.tunnel] })
    (more : s.published = c.service.published ++ [e]) : Step c a (c.withService s) :=
  (withServicePublished more).symm ▸ step

theorem pooledHeld {c : Shared} {k : ProfileKey} {t : TunnelId}
    (found : c.service.pool.entryAt? k = some (.live t)) : c.held t = true := by
  have pooled : c.service.pool.entries.any (fun e => e.2 == .live t) = true :=
    List.any_eq_true.mpr ⟨_, Pool.entryPresent found, by simp⟩
  simp [held, pooled]

theorem advanceStep {c : Shared} {r : Nat} {b : Bool} {s : Service}
    (moved : c.service.advance b r = some s) : Step c (.advance r b) (c.withService s) := by
  simp only [Service.advance, bind, Option.bind_eq_some_iff] at moved
  obtain ⟨x, found, moved⟩ := moved
  cases at' : x.stage with
  | entering =>
    simp only [at'] at moved
    split at moved
    · cases moved
      rw [setStageFound found]
      exact (Step.walk found (.inl ⟨at', .inr ⟨_, rfl⟩⟩)).silent rfl
    · split at moved <;> cases moved <;> rw [setStageFound found]
      · exact (Step.walk found (.inl ⟨at', .inr ⟨_, rfl⟩⟩)).silent rfl
      · exact (Step.walk found (.inl ⟨at', .inl rfl⟩)).silent rfl
  | looking =>
    simp only [at'] at moved
    split at moved <;> rename_i pooled <;> cases moved <;> rw [setStageFound found]
    · exact (Step.hit found at' pooled).silent rfl
    · exact (Step.walk found (.inr ⟨at', rfl⟩)).silent rfl
  | registering =>
    simp only [at'] at moved
    cases moved
    rw [setStageFound (by exact found)]
    exact (Step.register found at').silent rfl
  | creating a => simp [at'] at moved
  | promoting a t =>
    simp only [at'] at moved
    cases moved
    rw [setStageFound (by exact found)]
    exact (Step.promote found at').silent rfl
  | settling a t =>
    simp only [at'] at moved
    cases moved
    rw [setStageFound (by exact found)]
    exact (Step.settle found at').silent rfl
  | announcing t =>
    simp only [at'] at moved
    cases moved
    rw [setStageFound (by exact found)]
    exact (Step.announce found at').heard rfl
  | watching t =>
    simp only [at', Service.watch, bind, Option.bind_eq_some_iff] at moved
    obtain ⟨w, ⟨y, tunnel, registered⟩, moved⟩ := moved
    cases closed : y.life.closed with
    | false =>
      rw [Lifecycle.registerOpen closed, setLifeFound tunnel] at registered
      cases registered
      cases moved
      rw [setStageFound (by exact found)]
      exact (Step.watch found at' tunnel closed).silent rfl
    | true =>
      rw [Lifecycle.registerClosed closed, setLifeFound tunnel] at registered
      cases registered
      cases moved
      rw [setStageFound (by exact found)]
      exact (Step.overdue found at' tunnel closed).silent rfl
  | telling t =>
    simp only [at'] at moved
    cases moved
    rw [setStageFound (by exact found)]
    exact (Step.tell found at').heard rfl
  | done result => simp [at'] at moved
  | aborted => simp [at'] at moved

section
variable {c : Shared} {r : Nat} {x : Request}

theorem denyStep (found : c.service.requests[r]? = some x) (at' : x.stage = .entering)
    (forbidden : x.profile.isPermitted = false) (b : Bool) :
    c.step (.advance r b) = some { c with
      service := staged c.service r x (.done (.error (.policyDenied x.profile.policy.id x.profile.target))) } := by
  simp [step, Service.advance, found, at', forbidden, setStageFound found, withServiceSame (s := staged _ _ _ _) rfl]

theorem refuseStep (found : c.service.requests[r]? = some x) (at' : x.stage = .entering)
    (permitted : x.profile.isPermitted = true) :
    c.step (.advance r true) = some { c with service := staged c.service r x (.done (.error .cancelled)) } := by
  simp [step, Service.advance, found, at', permitted, setStageFound found, withServiceSame (s := staged _ _ _ _) rfl]

theorem enterStep (found : c.service.requests[r]? = some x) (at' : x.stage = .entering)
    (permitted : x.profile.isPermitted = true) :
    c.step (.advance r false) = some { c with service := staged c.service r x .looking } := by
  simp [step, Service.advance, found, at', permitted, setStageFound found, withServiceSame (s := staged _ _ _ _) rfl]

theorem hitStep (found : c.service.requests[r]? = some x) (at' : x.stage = .looking) {t : TunnelId}
    (pooled : c.service.pool.lookup c.service.isOpen x.profile.key = some t) (b : Bool) :
    c.step (.advance r b) = some { c with service := staged c.service r x (.done (.ok t)) } := by
  simp [step, Service.advance, found, at', pooled, setStageFound found, withServiceSame (s := staged _ _ _ _) rfl]

theorem missStep (found : c.service.requests[r]? = some x) (at' : x.stage = .looking)
    (missing : c.service.pool.lookup c.service.isOpen x.profile.key = none) (b : Bool) :
    c.step (.advance r b) = some { c with service := staged c.service r x .registering } := by
  simp [step, Service.advance, found, at', missing, setStageFound found, withServiceSame (s := staged _ _ _ _) rfl]

theorem registerStep (found : c.service.requests[r]? = some x) (at' : x.stage = .registering) (b : Bool) :
    c.step (.advance r b) = some { c with service :=
      { staged c.service r x (.creating c.service.pool.nextAttempt) with
        pool := (c.service.pool.register c.service.isOpen x.profile.key).1 } } := by
  have marked : ({ c.service with pool := (c.service.pool.register c.service.isOpen x.profile.key).1 } :
      Service).requests[r]? = some x := found
  simp only [step, Service.advance, found, bind, Option.bind_some, at', setStageFound marked, Option.map_some]
  exact congrArg some (withServiceSame rfl)

theorem promoteStep (found : c.service.requests[r]? = some x) {a : Nat} {t : TunnelId}
    (at' : x.stage = .promoting a t) (b : Bool) :
    c.step (.advance r b) = some { c with service := { staged c.service r x (.settling a t) with
      pool := (c.service.pool.promote c.service.isOpen x.profile.key t).1 } } := by
  have pooled : ({ c.service with pool := (c.service.pool.promote c.service.isOpen x.profile.key t).1 } :
      Service).requests[r]? = some x := found
  simp only [step, Service.advance, found, bind, Option.bind_some, at', setStageFound pooled, Option.map_some]
  exact congrArg some (withServiceSame rfl)

theorem failStep (found : c.service.requests[r]? = some x) {a : Nat} (at' : x.stage = .creating a) (e : Failure) :
    c.step (.fail r e) = some { c with service := { staged c.service r x (.done (.error e)) with
      pool := c.service.pool.abandon x.profile.key a } } := by
  have marked : ({ c.service with pool := c.service.pool.abandon x.profile.key a } : Service).requests[r]? = some x :=
    found
  simp only [step, Service.created, found, bind, Option.bind_some, at', setStageFound marked, Option.map_some]
  exact congrArg some (withServiceSame rfl)

theorem abortStep (found : c.service.requests[r]? = some x) {a : Nat} (at' : x.stage = .creating a) :
    c.step (.abort r) = some { c with service := { staged c.service r x .aborted with
      pool := c.service.pool.abandon x.profile.key a } } := by
  have marked : ({ c.service with pool := c.service.pool.abandon x.profile.key a } : Service).requests[r]? = some x :=
    found
  simp only [step, Service.abort, found, bind, Option.bind_some, at', setStageFound marked, Option.map_some]
  exact congrArg some (withServiceSame rfl)

end

theorem relayStep {c c' : Shared} {a : Action} {t : TunnelId} {f : Tunnel ProfileKey → Option (Tunnel ProfileKey)}
    (same : ∀ x x', f x = some x' → Tunnel.Same x x') (changed : c.changeTunnel t f = some c') : Step c a c' := by
  simp only [changeTunnel, bind, Option.bind_eq_some_iff] at changed
  obtain ⟨y, tunnel, y', effect, last⟩ := changed
  cases Option.some.inj last
  exact .relay tunnel (same y y' effect).life (same y y' effect).admission

theorem teardownStep {c c' : Shared} {i : Nat} (moved : c.stepTeardown i = some c') : Step c (.teardown i) c' := by
  simp only [stepTeardown, bind, Option.bind_eq_some_iff] at moved
  obtain ⟨d, found, ⟨s, phase⟩, worked, last⟩ := moved
  cases Option.some.inj last
  simp only [proceed, bind, Option.bind_eq_some_iff] at worked
  obtain ⟨y, tunnel, worked⟩ := worked
  cases at' : d.phase with
  | flagging =>
    simp only [at'] at worked
    cases closed : y.life.closed with
    | false =>
      rw [Lifecycle.flagOpen closed] at worked
      cases worked
      rw [setLifeFound tunnel, withServiceSame (s := lived _ _ _ _) rfl]
      exact .flag found at' tunnel closed
    | true =>
      rw [Lifecycle.flagClosed closed] at worked
      cases worked
      rw [withServiceSame (s := c.service) rfl]
      exact .late found at' tunnel closed
  | cancelling =>
    simp only [at', setLifeFound tunnel] at worked
    cases worked
    rw [withServiceSame (s := lived _ _ _ _) rfl]
    exact .cancel found at' tunnel
  | releasing =>
    simp only [at', setLifeFound tunnel] at worked
    cases worked
    rw [withServiceSame (s := lived _ _ _ _) rfl]
    exact .unbind found at' tunnel
  | taking =>
    simp only [at', setLifeFound tunnel] at worked
    cases worked
    rw [withServiceSame (s := lived _ _ _ _) rfl]
    exact .take found at' tunnel
  | forgetting key rest =>
    simp only [at'] at worked
    cases worked
    rw [withServiceSame (s := Service.forget _ _ _) rfl]
    refine .forget found at' ?_
    cases present : c.held d.tunnel with
    | true => simp
    | false =>
      have absent : c.service.pool.entryAt? key ≠ some (.live d.tunnel) := by
        intro pooled
        simp [pooledHeld pooled] at present
      simp [absent]
  | publishing rest =>
    simp only [at'] at worked
    cases worked
    rw [withServicePublished (e := .closed d.tunnel) rfl]
    exact .publish found at'
  | ended => simp [at'] at worked

theorem transportDone {s : Service} {r : Nat} {x : Request} {t : TunnelId} (found : s.requests[r]? = some x)
    (transport : s.transport? r = some t) : x.stage = .done (.ok t) := by
  simp only [Service.transport?, Service.stage?, found, Option.map_some] at transport
  split at transport
  · rename_i u at'
    cases transport
    exact Option.some.inj at'
  · contradiction

theorem transportRequest {s : Service} {q : Nat} {t : TunnelId} (transport : s.transport? q = some t) :
    ∃ x, s.requests[q]? = some x ∧ x.stage = .done (.ok t) := by
  cases found : s.requests[q]? with
  | none => simp [Service.transport?, Service.stage?, found] at transport
  | some x => exact ⟨x, rfl, transportDone found transport⟩

theorem stepCases {c c' : Shared} {a : Action} (moved : c.step a = some c') : Step c a c' := by
  cases a with
  | ask p => cases moved; exact .ask p
  | advance r b =>
    obtain ⟨s, advanced, rfl⟩ := Option.map_eq_some_iff.mp moved
    exact advanceStep advanced
  | deliver r t =>
    simp only [step] at moved
    split at moved <;> try contradiction
    rename_i allowed
    simp only [Bool.and_eq_true, decide_eq_true_eq] at allowed
    obtain ⟨s, created, rfl⟩ := Option.map_eq_some_iff.mp moved
    simp only [Service.created, bind, Option.bind_eq_some_iff] at created
    obtain ⟨x, found, created⟩ := created
    split at created <;> try contradiction
    · rename_i at' outcome
      cases outcome
      cases created
      rw [setStageFound found]
      exact .deliver allowed.1 allowed.2 found at'
  | fail r reason =>
    obtain ⟨s, created, rfl⟩ := Option.map_eq_some_iff.mp moved
    simp only [Service.created, bind, Option.bind_eq_some_iff] at created
    obtain ⟨x, found, created⟩ := created
    split at created <;> try contradiction
    · rename_i at' outcome
      cases outcome
      cases created
      rw [setStageFound (by exact found)]
      exact (Step.giveUp found at' (.inr ⟨_, rfl, rfl⟩)).silent rfl
  | abort r =>
    obtain ⟨s, aborted, rfl⟩ := Option.map_eq_some_iff.mp moved
    simp only [Service.abort, bind, Option.bind_eq_some_iff] at aborted
    obtain ⟨x, found, aborted⟩ := aborted
    split at aborted <;> try contradiction
    rename_i at'
    cases aborted
    rw [setStageFound (by exact found)]
    exact (Step.giveUp found at' (.inl ⟨rfl, rfl⟩)).silent rfl
  | make admission bufferSize statistics => cases moved; exact .make admission bufferSize statistics
  | arrive t i => exact relayStep (fun x x' h => by cases h; exact Tunnel.arriveSame x i) moved
  | poll t => exact relayStep (fun x x' h => by cases h; exact Tunnel.pollAllSame _ x) moved
  | act t index a => exact relayStep (fun x x' h => Tunnel.actSame h) moved
  | share t =>
    simp only [step] at moved
    split at moved <;> try contradiction
    rename_i known
    cases moved
    refine .refer fun u mem => ?_
    rcases List.mem_append.mp mem with old | new
    · simp [held, old]
    · rw [List.mem_singleton.mp new]
      exact known
  | letGo t =>
    simp only [step] at moved
    split at moved <;> try contradiction
    cases moved
    exact .refer fun u mem => by simp [held, List.mem_of_mem_erase mem]
  | dispose t =>
    simp only [step] at moved
    split at moved <;> try contradiction
    rename_i known
    cases moved
    exact .begin known.symm (by simp)
  | release r =>
    simp only [step, Service.release, bind, Option.bind_eq_some_iff] at moved
    obtain ⟨x, found, ⟨s, t⟩, ⟨x', found', t', transport, released⟩, moved⟩ := moved
    cases found.symm.trans found'
    split at released <;> try contradiction
    cases released
    split at moved <;> try contradiction
    rename_i present
    cases moved
    exact .release found (transportDone found transport) (by simpa using present)
  | leave r =>
    simp only [step, bind, Option.bind_eq_some_iff] at moved
    obtain ⟨x, found, moved⟩ := moved
    split at moved <;> try contradiction
    rename_i released
    cases moved
    exact .leave found released
  | destroy t =>
    simp only [step] at moved
    split at moved <;> try contradiction
    rename_i allowed
    simp only [Bool.and_eq_true, Bool.not_eq_true', decide_eq_true_eq] at allowed
    cases moved
    exact .begin allowed.1.symm fun _ => allowed.2
  | teardown i => exact teardownStep moved

end Shared
end TunnelRelay
