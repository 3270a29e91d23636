import TunnelRelay.Proofs.Pool.Gateway
import TunnelRelay.Proofs.Pool.Waiting
import TunnelRelay.Session.Launch

/-! The one request of a run. Asked of an empty service it waits for a tunnel of its own; it is refused
when the wait ends with an error, and then nothing is listened on; and it gets its tunnel when the
wait ends with one, which listens where the search for an endpoint ended. -/
namespace TunnelRelay
namespace Service

variable {s : Service} {limit : Duration} {m : Making} {t : TunnelId}

theorem followTunnel (s : Service) (m : Making) (creation : Creation) : (s.follow m creation).2.tunnel = m.tunnel := rfl

theorem pollTunnel (s : Service) (limit : Duration) (m : Making) (sight : Creation.Sight) :
    (s.pollMaking limit m sight).2.tunnel = m.tunnel := by
  unfold pollMaking
  dsimp only
  split
  · rw [followTunnel, followTunnel]
  · rw [followTunnel]

theorem awaitTunnel (s : Service) (limit : Duration) (m : Making) (look : Look) :
    (s.awaitMaking limit m look).2.1.tunnel = m.tunnel ∧
      ((s.awaitMaking limit m look).2.2 = some (.ok t) → m.tunnel = some t) := by
  unfold awaitMaking
  have kept : (if look.cancelled then (s, m) else s.pollMaking limit m look.probe).2.tunnel = m.tunnel := by
    split
    · rfl
    · exact pollTunnel ..
  generalize (if look.cancelled then (s, m) else s.pollMaking limit m look.probe) = polled at kept ⊢
  have kept' (b : Prop) [Decidable b] :
      (if b then polled.1.dropMaking limit polled.2 else polled).2.tunnel = m.tunnel := by
    split
    · exact kept
    · exact kept
  dsimp only
  split
  · exact ⟨kept, nofun⟩
  · rename_i sees
    refine ⟨kept' _, fun told => ?_⟩
    cases told
    have ended := Gateway.sightOk sees
    dsimp only at ended
    split at ended
    · cases ended
    · exact kept.symm.trans (Gateway.outcomeTunnel ended)

theorem stepTunnel (limit : Duration) (step : WaitStep) {w : (Service × Making) × Option (Except Failure TunnelId)}
    (before : w.2 = some (.ok t) → w.1.2.tunnel = some t) :
    (waitStep limit w step).1.2.tunnel = w.1.2.tunnel ∧
      ((waitStep limit w step).2 = some (.ok t) → w.1.2.tunnel = some t) := by
  obtain ⟨⟨s, m⟩, told⟩ := w
  cases step with
  | outside h => exact ⟨rfl, before⟩
  | look look =>
    cases told with
    | some result => exact ⟨rfl, before⟩
    | none => exact awaitTunnel s limit m look

theorem stepsTunnel (limit : Duration) (steps : List WaitStep)
    {w : (Service × Making) × Option (Except Failure TunnelId)} (before : w.2 = some (.ok t) → w.1.2.tunnel = some t) :
    (steps.foldl (waitStep limit) w).2 = some (.ok t) → (steps.foldl (waitStep limit) w).1.2.tunnel = some t := by
  induction steps generalizing w with
  | nil => exact before
  | cons step rest ih =>
    obtain ⟨kept, told⟩ := stepTunnel limit step before
    exact ih fun same => kept.trans (told same)

theorem dueOutcome {sight : Sight} (due : sight.due = true) : sight.outcome limit ≠ none := by
  unfold Sight.outcome
  split
  · nofun
  · split
    · nofun
    · nofun

theorem dueTells (s : Service) (limit : Duration) (m : Making) {look : Look} (due : look.due = true) :
    (s.awaitMaking limit m look).2.2.isSome = true := by
  unfold awaitMaking
  dsimp only
  split
  · rename_i untold
    exact absurd untold (dueOutcome due)
  · rfl

theorem dueTold (limit : Duration) {step : WaitStep} (due : step.due = true)
    (w : (Service × Making) × Option (Except Failure TunnelId)) : (waitStep limit w step).2.isSome = true := by
  obtain ⟨⟨s, m⟩, told⟩ := w
  cases step with
  | outside h => cases due
  | look look =>
    cases told with
    | some result => rfl
    | none => exact dueTells s limit m due

theorem toldStays (limit : Duration) (steps : List WaitStep) {result : Except Failure TunnelId}
    {w : (Service × Making) × Option (Except Failure TunnelId)} (told : w.2 = some result) :
    (steps.foldl (waitStep limit) w).2 = some result := by
  induction steps generalizing w with
  | nil => exact told
  | cons step rest ih =>
    refine ih ?_
    cases step with
    | outside h => exact told
    | look look => simp only [waitStep, told]

theorem waitEnds (limit : Duration) {steps : List WaitStep} {step : WaitStep} (mem : step ∈ steps)
    (due : step.due = true) (w : (Service × Making) × Option (Except Failure TunnelId)) :
    (steps.foldl (waitStep limit) w).2.isSome = true := by
  obtain ⟨before, rest, rfl⟩ := List.append_of_mem mem
  rw [List.foldl_append, List.foldl_cons]
  obtain ⟨result, told⟩ := Option.isSome_iff_exists.mp (dueTold limit due (before.foldl (waitStep limit) w))
  rw [toldStays limit rest told]
  rfl

inductive Awaits (s : Service) (settings : ListenSettings) (target : Locator → UInt16 → Except Failure Unit)
    (p : Profile) (around : Surroundings Endpoint) (w : (Service × Making) × Option (Except Failure TunnelId)) :
    Prop where
  | barren {asked : List Endpoint} {reason : Failure} (stays : w.1 = (s, ⟨failedCreation p asked reason, none⟩)) :
      Awaits s settings target p around w
  | tunnel {e : Endpoint} {c : Creation} {x : Tunnel ProfileKey} (admitted : target p.instanceLocator p.port = .ok ())
      (bound : (Creation.bindFor settings p around).outcome = .ok e) (goes : w.1 = made s x c)
      (waits : Waits e c x w.2) : Awaits s settings target p around w

theorem waitAwaits (s : Service) (settings : ListenSettings) (target : Locator → UInt16 → Except Failure Unit)
    (p : Profile) (around : Surroundings Endpoint) (limit : Duration) (steps : List WaitStep) :
    Awaits s settings target p around
      (steps.foldl (waitStep limit) (s.startMaking settings target p around, none)) := by
  cases admitted : target p.instanceLocator p.port with
  | error reason =>
    rw [startRefused admitted]
    exact .barren (failedSteps s limit rfl steps none)
  | ok =>
    cases bound : (Creation.bindFor settings p around).outcome with
    | error reason =>
      rw [startUnbound admitted bound]
      exact .barren (failedSteps s limit rfl steps none)
    | ok e =>
      obtain ⟨c, x, told, goes, waits, -⟩ := waitsSteps (s := s) limit steps (waitsStart settings p around e)
      rw [startBound admitted bound, goes]
      exact .tunnel admitted bound rfl waits

theorem refusedStage {refusal : Refusal} {r : Nat} (refuses : s.refusal? r = some refusal) :
    ∃ reason, s.stage? r = some (.done (.error reason)) := by
  unfold refusal? at refuses
  split at refuses
  · rename_i reason ended
    exact ⟨reason, ended⟩
  · cases refuses

theorem refusedUngranted {refusal : Refusal} {r : Nat} (refuses : s.refusal? r = some refusal) :
    s.transport? r = none := by
  obtain ⟨reason, ended⟩ := refusedStage refuses
  simp [transport?, ended]

theorem refusedStays {refusal : Refusal} {r : Nat} (refuses : s.refusal? r = some refusal) (cancelled : Bool) (n : Nat) :
    proceed cancelled r n s = s := by
  obtain ⟨reason, ended⟩ := refusedStage refuses
  obtain ⟨q, found, done⟩ := Option.map_eq_some_iff.mp ended
  have idle : s.advance cancelled r = none := by simp [advance, found, done]
  cases n with
  | zero => rfl
  | succ n => rw [proceed, idle]

theorem promotedEnds {q : Request} {n : Nat} {x : Tunnel ProfileKey} (cancelled : Bool) (alone : s.requests = [q])
    (promoting : q.stage = .promoting n 0) (tunnel : s.tunnels = [x]) :
    (proceed cancelled 0 steps s).transport? 0 = some 0 ∧
      ∃ y, (proceed cancelled 0 steps s).tunnels = [y] ∧ y.endpoint = x.endpoint := by
  obtain ⟨profile, stage, released, gone⟩ := q
  cases promoting
  cases closed : x.life.closed with
  | false =>
    simp [proceed, steps, advance, alone, tunnel, setStage, publish, watch, setLife, Lifecycle.registerOpen closed,
      transport?, stage?]
  | true =>
    simp [proceed, steps, advance, alone, tunnel, setStage, publish, forget, watch, setLife,
      Lifecycle.registerClosed closed, transport?, stage?]

end Service

namespace Session
open Service (Awaits)

variable {p : Plan} {w : Outside} {s : Service}

def waiting (p : Plan) : Service where
  pool := { entries := [(p.profile.key, .pending 0)], nextAttempt := 1 }
  requests := [{ profile := p.profile, stage := .creating 0 }]

theorem askedWaits (permitted : p.profile.isPermitted = true) : asked p false = waiting p := by
  simp [asked, waiting, Service.proceed, Service.steps, Service.advance, Service.addRequest, Service.setStage, permitted,
    Pool.lookup, Pool.entryAt?, Pool.register, Pool.put]

theorem askedInterrupted (permitted : p.profile.isPermitted = true) :
    (asked p true).stage? 0 = some (.done (.error .cancelled)) ∧ (asked p true).inUse = [] := by
  simp [asked, Service.proceed, Service.steps, Service.advance, Service.addRequest, Service.setStage, permitted,
    Service.stage?, Service.inUse]

theorem answerRefused {refusal : Refusal} (refuses : s.refusal? 0 = some refusal) :
    answer p s = some (.error (.transport refusal)) := by
  rw [answer, Service.refusedUngranted refuses, refuses]

theorem answerGranted {t : TunnelId} {e : Endpoint} (grants : s.transport? 0 = some t)
    (listens : (s.tunnels[t]?.bind (·.endpoint)) = some e) : answer p s = some (.ok ⟨e, p.profile.instanceLocator⟩) := by
  rw [answer, grants]
  simp only [listens, Option.map_some]

theorem grantedUnrefused {t : TunnelId} (grants : s.transport? 0 = some t) : s.refusal? 0 = none := by
  cases refuses : s.refusal? 0 with
  | none => rfl
  | some _ => cases grants.symm.trans (Service.refusedUngranted refuses)

inductive Comes (p : Plan) (w : Outside) (s : Service) : Prop where
  | waits (unanswered : answer p s = none) (ungranted : s.transport? 0 = none) (unrefused : s.refusal? 0 = none)
      (undue : ∀ step ∈ w.wait, step.due = false) : Comes p w s
  | refused {refusal : Refusal} (fails : answer p s = some (.error (.transport refusal)))
      (ungranted : s.transport? 0 = none) (refuses : s.refusal? 0 = some refusal) (inUse : s.inUse = []) : Comes p w s
  | granted {e : Endpoint} (forwards : answer p s = some (.ok ⟨e, p.profile.instanceLocator⟩))
      (grants : s.transport? 0 = some 0) (unrefused : s.refusal? 0 = none)
      (bound : (Creation.bindFor p.settings p.profile w.around).outcome = .ok e) : Comes p w s

theorem resumeFails (beside : Service.Beside (waiting p) s) (free : s.inUse = []) (interrupted : Bool)
    (reason : Failure) :
    let s' := resume interrupted s (some (.error reason))
    s'.transport? 0 = none ∧ s'.refusal? 0 = some (.ofFailure reason) ∧ s'.inUse = [] := by
  have marked : (waiting p).pool.entryAt? p.profile.key = some (.pending 0) := by simp [waiting, Pool.entryAt?]
  obtain ⟨s', created, refused⟩ := Service.createdFails (r := 0) beside free rfl rfl marked reason
  have ended := Service.refusedStays refused.answer interrupted Service.steps
  have same : resume interrupted s (some (.error reason)) = s' := by
    simp only [resume, Option.bind_some, created, ended]
  rw [same]
  exact ⟨Service.refusedUngranted refused.answer, refused.answer, refused.inUse⟩

theorem resumeGrants (p : Plan) (x : Tunnel ProfileKey) (interrupted : Bool) :
    let s' := resume interrupted ((waiting p).grown x) (some (.ok 0))
    s'.transport? 0 = some 0 ∧ (s'.tunnels[0]?.bind (·.endpoint)) = x.endpoint := by
  have created : ((waiting p).grown x).created 0 (.ok 0) =
      some { (waiting p).grown x with requests := [{ profile := p.profile, stage := .promoting 0 0 }] } := rfl
  obtain ⟨grants, y, tunnels, same⟩ := Service.promotedEnds interrupted
    (s := { (waiting p).grown x with requests := [{ profile := p.profile, stage := .promoting 0 0 }] }) rfl rfl rfl
  simp only [resume, Option.bind_some, created]
  exact ⟨grants, by rw [tunnels]; exact same⟩

def seen (p : Plan) (w : Outside) : (Service × Making) × Option (Except Failure TunnelId) :=
  w.wait.foldl (Service.waitStep p.timeout) ((waiting p).startMaking p.settings (target p) p.profile w.around, none)

theorem seenAwaits (p : Plan) (w : Outside) :
    Awaits (waiting p) p.settings (target p) p.profile w.around (seen p w) :=
  Service.waitAwaits ..

theorem requestResumes (permitted : p.profile.isPermitted = true) (running : w.interrupted = false) :
    request p w = resume false (seen p w).1.1 (seen p w).2 := by
  have stage : (waiting p).stage? 0 = some (.creating 0) := rfl
  simp only [request, running, askedWaits permitted, stage]
  rfl

theorem seenFails {reason : Failure} (told : (seen p w).2 = some (.error reason)) :
    let s := resume false (seen p w).1.1 (seen p w).2
    s.transport? 0 = none ∧ s.refusal? 0 = some (.ofFailure reason) ∧ s.inUse = [] := by
  have fails (beside : Service.Beside (waiting p) (seen p w).1.1) (free : (seen p w).1.1.inUse = []) :=
    resumeFails beside free false reason
  rw [told]
  cases seenAwaits p w with
  | barren stays =>
    rw [stays] at fails ⊢
    exact fails ⟨rfl, rfl, rfl⟩ rfl
  | tunnel admitted bound goes waits =>
    have released := waits.fits.closed (waits.failed reason told)
    rw [goes] at fails ⊢
    exact fails ⟨rfl, rfl, rfl⟩ (Service.fitsRestored waits.fits released).inUse

theorem seenGrants {t : TunnelId} (told : (seen p w).2 = some (.ok t)) :
    let s := resume false (seen p w).1.1 (seen p w).2
    ∃ e, (Creation.bindFor p.settings p.profile w.around).outcome = .ok e ∧ s.transport? 0 = some 0 ∧
      (s.tunnels[0]?.bind (·.endpoint)) = some e := by
  have tunnel : (seen p w).1.2.tunnel = some t := Service.stepsTunnel p.timeout w.wait (by simp) told
  rw [told]
  cases seenAwaits p w with
  | barren stays =>
    rw [stays] at tunnel
    cases tunnel
  | @tunnel e c x admitted bound goes waits =>
    rw [goes] at tunnel ⊢
    cases tunnel
    obtain ⟨grants, listens⟩ := resumeGrants p x false
    exact ⟨e, bound, grants, listens.trans waits.fits.endpoint⟩

theorem seenWaits (untold : (seen p w).2 = none) :
    let s := resume false (seen p w).1.1 (seen p w).2
    s.transport? 0 = none ∧ s.refusal? 0 = none ∧ ∀ step ∈ w.wait, step.due = false := by
  have same : (seen p w).1.1.requests = (waiting p).requests := by
    cases seenAwaits p w with
    | barren stays => rw [stays]
    | tunnel _ _ goes _ => rw [goes]; rfl
  have stage : (seen p w).1.1.stage? 0 = some (.creating 0) := by
    rw [Service.stage?, same]
    rfl
  rw [untold]
  have ungranted : (seen p w).1.1.transport? 0 = none := by simp [Service.transport?, stage]
  have unrefused : (seen p w).1.1.refusal? 0 = none := by simp [Service.refusal?, stage]
  refine ⟨ungranted, unrefused, fun step mem => ?_⟩
  cases due : step.due with
  | false => rfl
  | true =>
    rw [← Option.not_isSome_iff_eq_none] at untold
    exact absurd (Service.waitEnds p.timeout mem due _) untold

theorem requestComes (permitted : p.profile.isPermitted = true) (w : Outside) : Comes p w (request p w) := by
  cases running : w.interrupted with
  | true =>
    obtain ⟨stage, inUse⟩ := askedInterrupted permitted
    have refuses : (asked p true).refusal? 0 = some (.ofFailure .cancelled) := by simp [Service.refusal?, stage]
    have same : request p w = asked p true := by simp only [request, running, stage]
    rw [same]
    exact .refused (answerRefused refuses) (Service.refusedUngranted refuses) refuses inUse
  | false =>
    rw [requestResumes permitted running]
    cases told : (seen p w).2 with
    | none =>
      obtain ⟨ungranted, unrefused, undue⟩ := seenWaits told
      rw [told] at ungranted unrefused
      exact .waits (by rw [answer, ungranted, unrefused]) ungranted unrefused undue
    | some result =>
      cases result with
      | error reason =>
        obtain ⟨ungranted, refuses, inUse⟩ := seenFails told
        rw [told] at ungranted refuses inUse
        exact .refused (answerRefused refuses) ungranted refuses inUse
      | ok t =>
        obtain ⟨e, bound, grants, listens⟩ := seenGrants told
        rw [told] at grants listens
        exact .granted (answerGranted grants listens) grants (grantedUnrefused grants) bound

end Session
end TunnelRelay
