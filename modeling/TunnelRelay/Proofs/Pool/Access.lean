import TunnelRelay.Proofs.Pool.Refusals
import TunnelRelay.Proofs.Pool.Stability

/-! What a request gets with a tunnel. The tunnel was handed to a request with the same
key, it admits whom it admitted when it was made, and nothing but a permitted request
gets so far. A permitted request whose key has an open tunnel gets that one. -/
namespace TunnelRelay.Shared
open Service (Request Stage)

variable {c c' : Shared} {a : Action}

theorem admissionLived {s : Service} {t u : TunnelId} {y z : Tunnel ProfileKey} (tunnel : s.tunnels[t]? = some y)
    (found : s.tunnels[u]? = some z) (life : Lifecycle ProfileKey) :
    ∃ z', (lived s t y life).tunnels[u]? = some z' ∧ z'.admission = z.admission := by
  simp only [lived, setAt tunnel]
  split
  · rename_i same
    subst same
    cases tunnel.symm.trans found
    exact ⟨_, rfl, rfl⟩
  · exact ⟨z, found, rfl⟩

theorem admissionKept (step : Step c a c') {t : TunnelId} {y : Tunnel ProfileKey}
    (found : c.service.tunnels[t]? = some y) :
    ∃ y', c'.service.tunnels[t]? = some y' ∧ y'.admission = y.admission := by
  cases step with
  | watch _ _ tunnel => exact admissionLived tunnel found _
  | overdue _ _ tunnel => exact admissionLived tunnel found _
  | flag _ _ tunnel => exact admissionLived tunnel found _
  | cancel _ _ tunnel => exact admissionLived tunnel found _
  | unbind _ _ tunnel => exact admissionLived tunnel found _
  | take _ _ tunnel => exact admissionLived tunnel found _
  | make => exact ⟨y, appendOld found _, rfl⟩
  | relay tunnel _ admission =>
    simp only [setAt tunnel]
    split
    · rename_i same
      subst same
      cases tunnel.symm.trans found
      exact ⟨_, rfl, admission⟩
    · exact ⟨y, found, rfl⟩
  | _ => exact ⟨y, found, rfl⟩

def HandedFor (c : Shared) (t : TunnelId) (k : ProfileKey) : Prop :=
  ∃ (r : Nat) (x : Request), (r, t) ∈ c.deliveries ∧ c.service.requests[r]? = some x ∧ x.profile.key = k

def Akin (c : Shared) : Prop :=
  ∀ (q : Nat) (x : Request) (t : TunnelId), c.service.requests[q]? = some x → x.stage.tunnel? = some t →
    c.HandedFor t x.profile.key

theorem handedForKept (step : Step c a c') {t : TunnelId} {k : ProfileKey} (handed : c.HandedFor t k) :
    c'.HandedFor t k := by
  obtain ⟨r, x, mem, found, key⟩ := handed
  obtain ⟨x', found', grows⟩ := requestGrows step found
  exact ⟨r, x', deliveryKept step mem, found', grows.profile ▸ key⟩

theorem moveAkin (step : Step c a c') (rooted : Rooted c) (akin : Akin c) {q : Nat} {y : Request}
    {old new : Stage} (found : c.service.requests[q]? = some y) (at' : y.stage = old)
    (move : Move c c' a q y.profile.key old new) {t : TunnelId} (tunnel : new.tunnel? = some t) :
    c'.HandedFor t y.profile.key := by
  have still (before : y.stage.tunnel? = some t) := handedForKept step (akin q y t found before)
  cases move with
  | hit entry =>
    cases tunnel
    obtain ⟨r, x, mem, known, key, -⟩ := rooted _ t entry
    exact handedForKept step ⟨r, x, mem, known, key⟩
  | deliver n held handed =>
    cases tunnel
    obtain ⟨y', found', grows⟩ := requestGrows step found
    exact ⟨q, y', by simp [handed], found', congrArg Profile.key grows.profile⟩
  | promote => exact still (at' ▸ tunnel)
  | settle => exact still (at' ▸ tunnel)
  | announce => exact still (at' ▸ tunnel)
  | watch => exact still (at' ▸ tunnel)
  | overdue => exact still (at' ▸ tunnel)
  | tell => exact still (at' ▸ tunnel)
  | _ => contradiction

theorem akinStep (step : Step c a c') (rooted : Rooted c) (akin : Akin c) : Akin c' := by
  intro q x t found tunnel
  cases requestCame step found with
  | same before => exact handedForKept step (akin q x t before tunnel)
  | asked p => contradiction
  | moved before at' move => exact moveAkin step rooted akin before at' move tunnel
  | @released y _ before => exact handedForKept step (akin q y t before tunnel)
  | @left y before => exact handedForKept step (akin q y t before tunnel)

theorem akinReachable (reachable : c.Reachable) : Akin c :=
  reachableKeeps (by simp [Akin]) (fun before step akin => akinStep step (rootedReachable before) akin) reachable

def passed : Stage → Bool
  | .entering | .done (.error _) => false
  | _ => true

theorem earlyAct {q : Nat} {x : Request} (found : c.service.requests[q]? = some x)
    (early : x.stage = .entering ∨ x.stage = .looking) (moved : c.step a = some c') (own : a.caller? = some q) :
    ∃ b, a = .advance q b := by
  cases a <;> cases own
  case advance b => exact ⟨b, rfl⟩
  all_goals rcases early with at' | at' <;> simp [step, Service.created, Service.abort, found, at'] at moved

theorem entryPermitted {q : Nat} {x y : Request} (found : c.service.requests[q]? = some x)
    (at' : x.stage = .entering) (moved : c.step a = some c') (now : c'.service.requests[q]? = some y)
    (let' : passed y.stage = true) : x.profile.isPermitted = true := by
  by_cases own : a.caller? = some q
  · obtain ⟨b, rfl⟩ := earlyAct found (.inl at') moved own
    cases permitted : x.profile.isPermitted with
    | true => rfl
    | false =>
      cases (denyStep found at' permitted b).symm.trans moved
      cases (setSelf found _).symm.trans now
      contradiction
  · rcases othersKeep (stepCases moved) own now with ⟨z, before, -, same⟩ | ⟨-, same⟩
    · cases found.symm.trans before
      simp [same, at', passed] at let'
    · simp [same, passed] at let'

theorem movePassed {q : Nat} {k : ProfileKey} {old new : Stage} (move : Move c c' a q k old new) :
    old = .entering ∨ passed old = true := by
  cases move with
  | enter => exact .inl rfl
  | refuse => exact .inl rfl
  | _ => exact .inr rfl

def Permitted (c : Shared) : Prop :=
  ∀ (q : Nat) (x : Request), c.service.requests[q]? = some x → passed x.stage = true → x.profile.isPermitted = true

theorem permittedStep (moved : c.step a = some c') (permitted : Permitted c) : Permitted c' := by
  intro q x found let'
  cases requestCame (stepCases moved) found with
  | same before => exact permitted q x before let'
  | asked p => contradiction
  | @moved y _ _ before at' move =>
    change y.profile.isPermitted = true
    rcases movePassed move with entering | old
    · exact entryPermitted before (at'.trans entering) moved found let'
    · exact permitted q y before (at' ▸ old)
  | @released y _ before => exact permitted q y before let'
  | @left y before => exact permitted q y before let'

theorem permittedReachable (reachable : c.Reachable) : Permitted c := by
  obtain ⟨actions, ran⟩ := reachable
  induction actions using List.reverseRecOn generalizing c with
  | nil =>
    cases ran
    simp [Permitted]
  | append_singleton past a ih =>
    obtain ⟨b, before, moved⟩ := runLast ran
    exact permittedStep moved (ih before)

/- A request of the profile is on its way to the tunnel, or has it. -/
def Heading (q : Nat) (p : Profile) (t : TunnelId) (c : Shared) : Prop :=
  ∃ x, c.service.requests[q]? = some x ∧ x.profile = p ∧
    (x.stage = .entering ∨ x.stage = .looking ∨ x.stage = .done (.ok t))

section
variable {q : Nat} {p : Profile} {t : TunnelId}

theorem headingStep (moved : c.step a = some c') (permitted : p.isPermitted = true)
    (uncancelled : a ≠ .advance q true) (pooled : c.service.pool.lookup c.service.isOpen p.key = some t)
    (heading : Heading q p t c) : Heading q p t c' := by
  obtain ⟨x, found, rfl, stage⟩ := heading
  obtain ⟨y, now, grows⟩ := requestGrows (stepCases moved) found
  by_cases own : a.caller? = some q
  · rcases stage with at' | at' | at'
    · obtain ⟨b, rfl⟩ := earlyAct found (.inl at') moved own
      cases b with
      | true => contradiction
      | false =>
        cases (enterStep found at' permitted).symm.trans moved
        exact ⟨_, setSelf found _, rfl, .inr (.inl rfl)⟩
    · obtain ⟨b, rfl⟩ := earlyAct found (.inr at') moved own
      cases (hitStep found at' pooled b).symm.trans moved
      exact ⟨_, setSelf found _, rfl, .inr (.inr rfl)⟩
    · exact ⟨y, now, grows.profile, .inr (.inr (grows.returned _ at'))⟩
  · rcases othersKeep (stepCases moved) own now with ⟨z, before, profile, same⟩ | ⟨new, -⟩
    · cases found.symm.trans before
      exact ⟨y, now, profile, same ▸ stage⟩
    · exact absurd new (beyond found)

theorem headingRun (reachable : c.Reachable) (entry : c.service.pool.entryAt? p.key = some (.live t))
    (permitted : p.isPermitted = true) (heading : Heading q p t c) {actions : List Action}
    (uncancelled : .advance q true ∉ actions) (ran : c.run actions = some c')
    (opened : c'.service.isOpen t = true) : Heading q p t c' := by
  induction actions using List.reverseRecOn generalizing c' with
  | nil =>
    cases ran
    exact heading
  | append_singleton past a ih =>
    obtain ⟨d, before, moved⟩ := runLast ran
    have pooled := pooledRun reachable entry before
    obtain ⟨l, known⟩ := pooled.known
    have still := openBefore (stepCases moved) opened known
    simp only [List.mem_append, List.mem_singleton, not_or] at uncancelled
    exact headingStep moved permitted (Ne.symm uncancelled.2) (Pool.lookupOpen.mpr ⟨pooled.entry still, still⟩)
      (ih uncancelled.1 before still)

theorem transportStaged {s : Service} {x : Request} (found : s.requests[q]? = some x) :
    (staged s q x (.done (.ok t))).transport? q = some t := by
  simp [Service.transport?, Service.stage?, staged, setSelf found]

theorem headingServed (permitted : p.isPermitted = true)
    (pooled : c.service.pool.lookup c.service.isOpen p.key = some t) (heading : Heading q p t c) :
    ∃ n ≤ 2, ∃ c', c.run (List.replicate n (.advance q false)) = some c' ∧ c'.service.transport? q = some t := by
  obtain ⟨x, found, rfl, stage⟩ := heading
  rcases stage with at' | at' | at'
  · have entered := enterStep found at' permitted
    have now := setSelf found { x with stage := .looking }
    have hits := hitStep (c := { c with service := staged c.service q x .looking }) now rfl pooled false
    exact ⟨2, Nat.le_refl _, _, runStep entered (runStep hits (runNil _)), transportStaged now⟩
  · exact ⟨1, by decide, _, runStep (hitStep found at' pooled false) (runNil _), transportStaged found⟩
  · exact ⟨0, by decide, c, runNil c, by simp [Service.transport?, Service.stage?, found, at']⟩

end

end TunnelRelay.Shared
