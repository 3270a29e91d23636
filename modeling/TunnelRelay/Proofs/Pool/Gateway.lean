import TunnelRelay.Pool.Gateway
import TunnelRelay.Proofs.Capability
import TunnelRelay.Proofs.Pool.Access

/-! Access to the tunnels that a service has made for its requests. A tunnel is made for
one request and handed to that one only, so that whoever shares it has the key of the
profile it was made for. For the capabilities that come with the program this means that
sharing never widens access. -/
namespace TunnelRelay.Gateway
open Service (Request)

def Wait.Fits (w : Wait) : Prop := ∀ t, w.ending = some (.told (.ok t)) → w.tunnel? = some t

inductive Step (u : Setup) (g : Gateway) : Action → Gateway → Prop where
  | act {a shared} (free : g.reserved a = false) (did : g.shared.step a = some shared) :
      Step u g (.act a) { g with shared }
  | make {r target around x w shared} (found : g.shared.service.requests[r]? = some x) (fresh : g.tunnel? r = none)
      (fits : w.Fits) (made : w.tunnel? = some g.shared.service.tunnels.length)
      (did : g.shared.step (makingFor u.settings x.profile) = some shared) :
      Step u g (.begin r target around) { g.setWait r w with shared }
  | wait {action r w shared} (kept : w.tunnel? = g.tunnel? r) (fits : w.Fits)
      (did : shared = g.shared ∨ ∃ t, g.shared.step (.dispose t) = some shared) :
      Step u g action { g.setWait r w with shared }
  | conclude {r ending shared} (ended : (g.waits r).ending = some ending)
      (did : g.shared.step (ending.action r) = some shared) : Step u g (.conclude r) { g with shared }

variable {u : Setup} {g g' : Gateway} {action : Action}

theorem shareSome {a : Shared.Action} (moved : g.share (some a) = some g') :
    ∃ shared, g.shared.step a = some shared ∧ g' = { g with shared } := by
  obtain ⟨shared, did, same⟩ := Option.map_eq_some_iff.mp moved
  exact ⟨shared, did, same.symm⟩

theorem shareClosing {m : Making} {creation : Creation} (moved : g.share (closing m creation) = some g') :
    ∃ shared, (shared = g.shared ∨ ∃ t, g.shared.step (.dispose t) = some shared) ∧ g' = { g with shared } := by
  cases closes : closing m creation with
  | none =>
    rw [closes] at moved
    cases moved
    exact ⟨g.shared, .inl rfl, rfl⟩
  | some a =>
    rw [closes] at moved
    obtain ⟨shared, did, same⟩ := shareSome moved
    unfold closing at closes
    split at closes <;> try contradiction
    obtain ⟨t, -, rfl⟩ := Option.map_eq_some_iff.mp closes
    exact ⟨shared, .inr ⟨t, did⟩, same⟩

theorem pollTunnel (g : Gateway) (limit : Duration) (m : Making) (sight : Creation.Sight) :
    (g.poll limit m sight).tunnel = m.tunnel := by
  unfold poll
  dsimp only
  split <;> rfl

theorem outcomeTunnel {m : Making} {t : TunnelId} (outcome : m.outcome = some (.ok t)) : m.tunnel = some t := by
  unfold Making.outcome at outcome
  split at outcome <;> cases outcome
  assumption

theorem sightOk {limit : Duration} {sight : Service.Sight} {t : TunnelId}
    (outcome : sight.outcome limit = some (.ok t)) : sight.creation = some (.ok t) := by
  unfold Service.Sight.outcome at outcome
  split at outcome
  · cases outcome
  · split at outcome
    · rename_i ended
      exact ended.trans outcome
    · split at outcome <;> cases outcome

theorem beginStep {r : Nat} {x : Request} {target : Locator → UInt16 → Except Failure Unit}
    {around : Surroundings Endpoint} (found : g.shared.service.requests[r]? = some x)
    (fresh : g.tunnel? r = none) (moved : g.beginMaking u r x.profile target around = some g') :
    Step u g (.begin r target around) g' := by
  unfold beginMaking at moved
  dsimp only at moved
  split at moved
  · obtain ⟨shared, did, rfl⟩ := shareSome moved
    exact .make found fresh nofun rfl did
  · cases moved
    exact .wait fresh.symm nofun (.inl rfl)

theorem lookStep {r : Nat} {m : Making} {look : Service.Look} (found : (g.waits r).making = some m)
    (moved : g.lookAt u r m look = some g') : Step u g (.look r look) g' := by
  simp only [lookAt] at moved
  generalize polls : (if look.cancelled then m else g.poll (u.limits r) m look.probe) = polled at moved
  have same : polled.tunnel = m.tunnel := by
    rw [← polls]
    split
    · rfl
    · exact pollTunnel ..
  obtain ⟨shared, did, rfl⟩ := shareClosing moved
  have kept (b : Prop) [Decidable b] : (if b then dropped (u.limits r) polled else polled).tunnel = m.tunnel := by
    rw [apply_ite Making.tunnel]
    exact (ite_self _).trans same
  refine .wait ?kept (fun t ends => ?fits) did
  case kept => simp [Wait.tunnel?, tunnel?, found, kept]
  case fits =>
    obtain ⟨outcome, sees, told⟩ := Option.map_eq_some_iff.mp ends
    cases told
    have ended := sightOk sees
    dsimp only at ended
    split at ended <;> try contradiction
    simp only [Wait.tunnel?, Option.bind_some, kept, ← same]
    exact outcomeTunnel ended

theorem stepCases (moved : step u g action = some g') : Step u g action g' := by
  cases action with
  | act a =>
    simp only [step] at moved
    split at moved <;> try contradiction
    rename_i free
    obtain ⟨shared, did, rfl⟩ := shareSome moved
    exact .act (by simpa using free) did
  | begin r target around =>
    simp only [step] at moved
    split at moved <;> try contradiction
    rename_i found fresh
    split at moved <;> try contradiction
    exact beginStep found (by simp [tunnel?, Wait.tunnel?, fresh]) moved
  | look r look =>
    simp only [step] at moved
    split at moved <;> try contradiction
    split at moved
    · rename_i found
      exact lookStep found moved
    · rename_i fresh
      split at moved <;> try contradiction
      cases moved
      exact .wait (by simp [tunnel?, Wait.tunnel?, fresh]) nofun (.inl rfl)
  | leave r =>
    simp only [step] at moved
    split at moved <;> try contradiction
    cases moved
    refine .wait ?_ nofun (.inl rfl)
    cases found : (g.waits r).making <;> simp [tunnel?, Wait.tunnel?, found, dropped]
  | conclude r =>
    obtain ⟨ending, ended, moved⟩ := Option.bind_eq_some_iff.mp moved
    obtain ⟨shared, did, rfl⟩ := shareSome moved
    exact .conclude ended did

/- At most one action, which hands over only what a wait has ended with, and cancels only whom the action does. -/
inductive Shares (g g' : Gateway) (action : Action) : Prop where
  | nothing (same : g'.shared = g.shared)
  | one (a : Shared.Action) (did : g.shared.step a = some g'.shared)
      (ended : ∀ r t, a = .deliver r t → (g.waits r).ending = some (.told (.ok t)))
      (cancels : ∀ q, a = .advance q true → action = .act a)

theorem endingDelivers {r q : Nat} {t : TunnelId} {ending : Ending} (hands : ending.action r = .deliver q t) :
    q = r ∧ ending = .told (.ok t) := by
  cases ending with
  | left => cases hands
  | told outcome =>
    cases outcome <;> cases hands
    exact ⟨rfl, rfl⟩

theorem endingAdvances (ending : Ending) (r q : Nat) : ending.action r ≠ .advance q true := by
  cases ending with
  | left => exact nofun
  | told outcome => cases outcome <;> exact nofun

theorem stepShares (step : Step u g action g') : Shares g g' action := by
  cases step with
  | @act a shared free did =>
    refine .one a did (fun r t hands => ?_) (fun q _ => rfl)
    subst hands
    contradiction
  | make found fresh fits made did => exact .one _ did nofun nofun
  | wait kept fits did =>
    rcases did with same | ⟨t, did⟩
    · exact .nothing same
    · exact .one _ did nofun nofun
  | @conclude r ending shared ended did =>
    refine .one _ did (fun q t hands => ?_) (fun q cancels => absurd cancels (endingAdvances ending r q))
    obtain ⟨rfl, rfl⟩ := endingDelivers hands
    exact ended

inductive Makes (u : Setup) (g g' : Gateway) : Prop where
  | none (same : ∀ q, g'.tunnel? q = g.tunnel? q)
  | one (r : Nat) (x : Request) (y : Tunnel ProfileKey) (fresh : g.tunnel? r = none)
      (found : g'.shared.service.requests[r]? = some x)
      (there : g'.shared.service.tunnels[g.shared.service.tunnels.length]? = some y)
      (admits : y.admission = ⟨u.settings.loopbackOnly, x.profile.policy.admits⟩)
      (now : ∀ q, g'.tunnel? q = if q = r then some g.shared.service.tunnels.length else g.tunnel? q)

theorem waitTunnel (g : Gateway) (r : Nat) (w : Wait) (shared : Shared) (q : Nat) :
    ({ g.setWait r w with shared } : Gateway).tunnel? q = if q = r then w.tunnel? else g.tunnel? q := by
  simp only [tunnel?, setWait]
  split <;> rfl

theorem stepMakes (step : Step u g action g') : Makes u g g' := by
  cases step with
  | act => exact .none fun _ => rfl
  | conclude => exact .none fun _ => rfl
  | @make r target around x w shared found fresh fits made did =>
    have now := waitTunnel g r w shared
    rw [made] at now
    cases did
    exact .one r x (.make ⟨_, _⟩ u.settings.bufferSize {}) fresh found (by simp) rfl now
  | @wait _ r w shared kept =>
    refine .none fun q => (waitTunnel g r w shared q).trans ?_
    split
    · rename_i same
      rw [kept, same]
    · rfl

theorem stepFits (step : Step u g action g') (fits : ∀ q, (g.waits q).Fits) : ∀ q, (g'.waits q).Fits := by
  have waited {r : Nat} {w : Wait} (fit : w.Fits) (q : Nat) : ((g.setWait r w).waits q).Fits := by
    simp only [setWait]
    split
    · exact fit
    · exact fits q
  cases step with
  | act => exact fits
  | conclude => exact fits
  | make _ _ fit => exact waited fit
  | wait _ fit => exact waited fit

def Admits (u : Setup) (g : Gateway) (r : Nat) (t : TunnelId) : Prop :=
  ∃ (x : Request) (y : Tunnel ProfileKey), g.shared.service.requests[r]? = some x ∧
    g.shared.service.tunnels[t]? = some y ∧ y.admission = ⟨u.settings.loopbackOnly, x.profile.policy.admits⟩

structure Sound (u : Setup) (g : Gateway) : Prop where
  reachable : g.shared.Reachable
  fits : ∀ q, (g.waits q).Fits
  handed : ∀ r t, (r, t) ∈ g.shared.deliveries → g.tunnel? r = some t
  admits : ∀ r t, g.tunnel? r = some t → Admits u g r t
  once : ∀ q r t, g.tunnel? q = some t → g.tunnel? r = some t → q = r

theorem soundBound (sound : Sound u g) {r : Nat} {t : TunnelId} (made : g.tunnel? r = some t) :
    t < g.shared.service.tunnels.length := by
  obtain ⟨x, y, -, there, -⟩ := sound.admits r t made
  exact (List.getElem?_eq_some_iff.mp there).1

theorem makesKept (makes : Makes u g g') {r : Nat} {t : TunnelId} (made : g.tunnel? r = some t) :
    g'.tunnel? r = some t := by
  cases makes with
  | none same => rw [same, made]
  | one q x y fresh found there admits now =>
    rw [now, if_neg ?_, made]
    rintro rfl
    cases fresh.symm.trans made

theorem soundReachable (shares : Shares g g' action) (sound : Sound u g) : g'.shared.Reachable := by
  cases shares with
  | nothing same => exact same ▸ sound.reachable
  | one a did => exact Shared.reachableStep sound.reachable did

theorem soundHanded (shares : Shares g g' action) (makes : Makes u g g') (sound : Sound u g) :
    ∀ r t, (r, t) ∈ g'.shared.deliveries → g'.tunnel? r = some t := by
  intro r t mem
  cases shares with
  | nothing same => exact makesKept makes (sound.handed r t (same ▸ mem))
  | one a did ended =>
    rcases Shared.deliveryCame (Shared.stepCases did) mem with old | ⟨hands, -⟩
    · exact makesKept makes (sound.handed r t old)
    · exact makesKept makes (sound.fits r t (ended r t hands))

theorem admitsKept (shares : Shares g g' action) {r : Nat} {t : TunnelId} (admits : Admits u g r t) :
    Admits u g' r t := by
  cases shares with
  | nothing same =>
    rw [Admits, same]
    exact admits
  | one a did =>
    obtain ⟨x, y, found, there, admission⟩ := admits
    obtain ⟨x', found', grows⟩ := Shared.requestGrows (Shared.stepCases did) found
    obtain ⟨y', there', kept⟩ := Shared.admissionKept (Shared.stepCases did) there
    exact ⟨x', y', found', there', by rw [kept, admission, grows.profile]⟩

theorem soundAdmits (shares : Shares g g' action) (makes : Makes u g g') (sound : Sound u g) :
    ∀ r t, g'.tunnel? r = some t → Admits u g' r t := by
  intro r t made
  cases makes with
  | none same => exact admitsKept shares (sound.admits r t ((same r).symm.trans made))
  | one q x y fresh found there admits now =>
    rw [now] at made
    split at made
    · rename_i same
      subst same
      cases made
      exact ⟨x, y, found, there, admits⟩
    · exact admitsKept shares (sound.admits r t made)

theorem soundOnce (makes : Makes u g g') (sound : Sound u g) :
    ∀ q r t, g'.tunnel? q = some t → g'.tunnel? r = some t → q = r := by
  intro q r t first second
  cases makes with
  | none same =>
    rw [same] at first second
    exact sound.once q r t first second
  | one n x y fresh found there admits now =>
    rw [now] at first second
    split at first <;> split at second
    · simp_all
    · cases first
      exact absurd (soundBound sound second) (Nat.lt_irrefl _)
    · cases second
      exact absurd (soundBound sound first) (Nat.lt_irrefl _)
    · exact sound.once q r t first second

theorem soundStep (step : Step u g action g') (sound : Sound u g) : Sound u g' := by
  have shares := stepShares step
  have makes := stepMakes step
  exact ⟨soundReachable shares sound, stepFits step sound.fits, soundHanded shares makes sound,
    soundAdmits shares makes sound, soundOnce makes sound⟩

theorem runAppend (u : Setup) (g : Gateway) (first second : List Action) :
    run u g (first ++ second) = (run u g first).bind (run u · second) := by
  simp only [run, List.foldlM_append]
  rfl

theorem runLast {actions : List Action} (ran : run u g (actions ++ [action]) = some g') :
    ∃ d, run u g actions = some d ∧ step u d action = some g' := by
  rw [runAppend] at ran
  obtain ⟨d, before, last⟩ := Option.bind_eq_some_iff.mp ran
  simp only [run, List.foldlM_cons, List.foldlM_nil, bind_pure] at last
  exact ⟨d, before, last⟩

theorem soundRun {actions : List Action} (ran : run u {} actions = some g) : Sound u g := by
  induction actions using List.reverseRecOn generalizing g with
  | nil =>
    cases ran
    exact ⟨⟨[], rfl⟩, fun _ => nofun, by simp, nofun, nofun⟩
  | append_singleton past action ih =>
    obtain ⟨d, before, moved⟩ := runLast ran
    exact soundStep (stepCases moved) (ih before)

theorem runShares {actions : List Action} (ran : run u g actions = some g') :
    ∃ shared, g.shared.run shared = some g'.shared ∧
      ∀ q, .advance q true ∈ shared → .act (.advance q true) ∈ actions := by
  induction actions using List.reverseRecOn generalizing g' with
  | nil =>
    cases ran
    exact ⟨[], rfl, nofun⟩
  | append_singleton past action ih =>
    obtain ⟨d, before, moved⟩ := runLast ran
    obtain ⟨shared, did, cancels⟩ := ih before
    cases stepShares (stepCases moved) with
    | nothing same => exact ⟨shared, same ▸ did, fun q mem => List.mem_append_left _ (cancels q mem)⟩
    | one a next ended own =>
      refine ⟨shared ++ [a], ?_, fun q mem => ?_⟩
      · rw [Shared.runAppend, did]
        exact Shared.runStep next (Shared.runNil _)
      · rcases List.mem_append.mp mem with old | new
        · exact List.mem_append_left _ (cancels q old)
        · cases List.mem_singleton.mp new
          simp [own q rfl]

theorem runAdvances {q n : Nat} {shared : Shared}
    (ran : g.shared.run (List.replicate n (.advance q false)) = some shared) :
    run u g (List.replicate n (.act (.advance q false))) = some { g with shared } := by
  induction n generalizing g with
  | zero =>
    cases ran
    rfl
  | succ n ih =>
    obtain ⟨next, did, ran⟩ := Option.bind_eq_some_iff.mp ran
    have moved : step u g (.act (.advance q false)) = some { g with shared := next } := by
      simp [step, reserved, share, did]
    simp only [run, List.replicate_succ, List.foldlM_cons, moved]
    exact ih ran

structure Granted (u : Setup) (g : Gateway) (q : Nat) (t : TunnelId) : Prop where
  made : ∃ r x, g.tunnel? r = some t ∧ g.shared.service.requests[r]? = some x
  permitted : ∀ y, g.shared.service.requests[q]? = some y → y.profile.isPermitted = true
  access : ∀ r x y, g.tunnel? r = some t → g.shared.service.requests[r]? = some x →
    g.shared.service.requests[q]? = some y → x.profile.SameAccess y.profile
  admits : Admits u g q t

def Receives (u : Setup) (g : Gateway) (q : Nat) (t : TunnelId) : Prop :=
  ∃ n ≤ 2, ∃ g', run u g (List.replicate n (.act (.advance q false))) = some g' ∧
    g'.shared.service.transport? q = some t

theorem sharedKey (sound : Sound u g) {q : Nat} {y : Request} {t : TunnelId}
    (found : g.shared.service.requests[q]? = some y) (tunnel : y.stage.tunnel? = some t) :
    ∃ r x, g.tunnel? r = some t ∧ g.shared.service.requests[r]? = some x ∧ x.profile.key = y.profile.key := by
  obtain ⟨r, x, mem, made, key⟩ := Shared.akinReachable sound.reachable q y t found tunnel
  exact ⟨r, x, sound.handed r t mem, made, key⟩

theorem granted (sound : Sound u g) (builtIn : ∀ x ∈ g.shared.service.requests, x.profile.BuiltIn) {q : Nat}
    {t : TunnelId} (transport : g.shared.service.transport? q = some t) : Granted u g q t := by
  obtain ⟨y, found, stage⟩ : ∃ y, g.shared.service.requests[q]? = some y ∧ y.stage = .done (.ok t) := by
    cases asked : g.shared.service.requests[q]? with
    | none => simp [Service.transport?, Service.stage?, asked] at transport
    | some y => exact ⟨y, rfl, Shared.transportDone asked transport⟩
  obtain ⟨r, x, made, known, key⟩ := sharedKey sound found (by rw [stage]; rfl)
  have access : x.profile.SameAccess y.profile :=
    Profile.keyAccess (builtIn x (List.mem_of_getElem? known)) (builtIn y (List.mem_of_getElem? found)) key
  refine ⟨⟨r, x, made, known⟩, fun z other => ?permitted, fun n z w made' known' other => ?access, ?admits⟩
  case permitted =>
    cases found.symm.trans other
    exact Shared.permittedReachable sound.reachable q y found (by rw [stage]; rfl)
  case access =>
    cases found.symm.trans other
    cases sound.once n r t made' made
    cases known.symm.trans known'
    exact access
  case admits =>
    obtain ⟨z, tunnel, known', there, admission⟩ := sound.admits r t made
    cases known.symm.trans known'
    exact ⟨y, tunnel, found, there, by rw [admission, funext access.admits]⟩

theorem pooledKey (sound : Sound u g) {r : Nat} {x : Request} {t : TunnelId} {k : ProfileKey}
    (made : g.tunnel? r = some t) (found : g.shared.service.requests[r]? = some x)
    (entry : g.shared.service.pool.entryAt? k = some (.live t)) : x.profile.key = k := by
  obtain ⟨n, z, mem, known, key, -⟩ := Shared.rootedReachable sound.reachable k t entry
  cases sound.once n r t (sound.handed n t mem) made
  cases found.symm.trans known
  exact key

theorem received (sound : Sound u g) {r q : Nat} {x y : Request} {t : TunnelId} (made : g.tunnel? r = some t)
    (found : g.shared.service.requests[r]? = some x)
    (pooled : t ∈ g.shared.service.pool.members g.shared.service.isOpen)
    (asked : g.shared.service.requests[q]? = some y) (early : y.stage = .entering ∨ y.stage = .looking)
    (alike : x.profile.Alike y.profile) (permitted : y.profile.isPermitted = true) {later : List Action}
    (ran : run u g later = some g') (uncancelled : .act (.advance q true) ∉ later)
    (opened : g'.shared.service.isOpen t = true) : Receives u g' q t := by
  have reachable := sound.reachable
  obtain ⟨-, k, entry⟩ := (Pool.memberEntry (Shared.keyedReachable reachable)).mp pooled
  have key : y.profile.key = k := (Profile.alikeKey alike).symm.trans (pooledKey sound made found entry)
  subst key
  obtain ⟨shared, did, cancels⟩ := runShares ran
  have heading : Shared.Heading q y.profile t g.shared := ⟨y, asked, rfl, early.imp_right .inl⟩
  have arrives :=
    Shared.headingRun reachable entry permitted heading (fun mem => uncancelled (cancels q mem)) did opened
  have still := (Shared.pooledRun reachable entry did).entry opened
  obtain ⟨n, few, c, steps, transport⟩ :=
    Shared.headingServed permitted (Pool.lookupOpen.mpr ⟨still, opened⟩) arrives
  exact ⟨n, few, _, runAdvances steps, transport⟩

/- With the capabilities that come with the program, in every run: whoever gets a transport over a tunnel
has the target and the verdicts of the profile that the tunnel was made for, and is permitted; and while
the tunnel is open and pooled, whoever asks with a profile like that one gets it. -/
theorem sharingKeepsAccess {actions : List Action} (ran : run u {} actions = some g)
    (builtIn : ∀ x ∈ g.shared.service.requests, x.profile.BuiltIn) :
    (∀ q t, g.shared.service.transport? q = some t → Granted u g q t) ∧
    ∀ r x q y t, g.tunnel? r = some t → g.shared.service.requests[r]? = some x →
      t ∈ g.shared.service.pool.members g.shared.service.isOpen →
      g.shared.service.requests[q]? = some y → (y.stage = .entering ∨ y.stage = .looking) →
      x.profile.Alike y.profile → y.profile.isPermitted = true →
      ∀ later g', run u g later = some g' → .act (.advance q true) ∉ later →
        g'.shared.service.isOpen t = true → Receives u g' q t := by
  have sound := soundRun ran
  refine ⟨fun q t transport => granted sound builtIn transport, ?_⟩
  intro r x q y t made found pooled asked early alike permitted later g' ran' uncancelled opened
  exact received sound made found pooled asked early alike permitted ran' uncancelled opened

def shell (ports : List UInt16) (preferred : Option Endpoint) : Profile :=
  { Shared.shell with policy := .allowPorts ports, localEndpoint := preferred }

def serving (p : Profile) : List Action :=
  .act (.ask p) :: List.replicate 3 (.act (.advance 0 false)) ++
    [.begin 0 (fun _ _ => .ok ()) ⟨fun _ e => .ok e, fun drawing _ => drawing, fun _ => false⟩,
      .look 0 { probe := { connect := some (.ok ()) } }, .conclude 0] ++
    List.replicate 4 (.act (.advance 0 false))

theorem sharingKeepsAccessReordered :
    let u : Setup := { settings := { ports := ⟨50000, 50002⟩ }, limits := fun _ => .ofSecs 10 }
    let past := serving (shell [22, 80] none) ++ [.act (.ask (shell [80, 22, 80] (some (.v4 .localhost 50001))))]
    let later := List.replicate 2 (.act (.advance 1 false))
    ∃ g g', run u {} past = some g ∧ run u g later = some g' ∧ Receives u g' 1 0 ∧
      g'.shared.service.transport? 1 = some 0 ∧ Granted u g' 1 0 := by
  intro u past later
  have plain (ports : List UInt16) (sorted : sortedPorts ports = [22, 80]) :
      Policy.allowPorts ports = ⟨"ports:22,80", fun _ port => [22, 80].contains port, Endpoint.isLoopback⟩ := by
    rw [Policy.allowPorts, sorted]
    rfl
  obtain ⟨g, g', ran, ran', asked, asked', made, pooled, opened, transport⟩ :
      ∃ g g', run u {} past = some g ∧ run u g later = some g' ∧
        g.shared.service.requests = [⟨shell [22, 80] none, .done (.ok 0), false, false⟩,
          ⟨shell [80, 22, 80] (some (.v4 .localhost 50001)), .entering, false, false⟩] ∧
        g'.shared.service.requests = [⟨shell [22, 80] none, .done (.ok 0), false, false⟩,
          ⟨shell [80, 22, 80] (some (.v4 .localhost 50001)), .done (.ok 0), false, false⟩] ∧
        g.tunnel? 0 = some 0 ∧ g.shared.service.pool.members g.shared.service.isOpen = [0] ∧
        g'.shared.service.isOpen 0 = true ∧ g'.shared.service.transport? 1 = some 0 := by
    have first := plain [22, 80] (by simp [sortedPorts, List.mergeSort, List.MergeSort.Internal.splitInTwo])
    have second := plain [80, 22, 80] (by simp [sortedPorts, List.mergeSort, List.MergeSort.Internal.splitInTwo])
    simp only [u, past, later, shell, first, second]
    exact ⟨_, _, rfl, rfl, rfl, rfl, rfl, rfl, rfl, rfl⟩
  have builtIn (ports : List UInt16) (preferred : Option Endpoint) : (shell ports preferred).BuiltIn :=
    ⟨.inr rfl, .inr ⟨ports, rfl⟩⟩
  have ran'' : run u {} (past ++ later) = some g' := by rw [runAppend, ran, Option.bind_some, ran']
  obtain ⟨-, receives⟩ := sharingKeepsAccess ran (by simp [asked, builtIn])
  obtain ⟨grants, -⟩ := sharingKeepsAccess ran'' (by simp [asked', builtIn])
  refine ⟨g, g', ran, ran', ?_, transport, grants 1 0 transport⟩
  refine receives 0 _ 1 _ 0 made (by rw [asked]; rfl) (by simp [pooled]) (by rw [asked]; rfl) (.inl rfl) ?alike
    ?permitted later g' ran' (by simp [later]) opened
  case alike => exact ⟨rfl, rfl, rfl, .reordered fun p => by simp; tauto⟩
  case permitted => simp [Profile.isPermitted, shell, Shared.shell, Protocol.ssh, Policy.allowPorts, memSorted]

end TunnelRelay.Gateway
