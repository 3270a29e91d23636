import TunnelRelay.Proofs.Pool.Gateway

/-! Makers of tunnels. Every tunnel was made for a request, which waits until the tunnel is
handed to it; a maker whose request does not wait for the tunnel any longer has given it up. -/
namespace TunnelRelay
open Service (Request Stage)

namespace Shared

variable {c c' : Shared} {a : Action}

theorem creatingStays (moved : c.step a = some c') {r n : Nat} {x : Request}
    (found : c.service.requests[r]? = some x) (at' : x.stage = .creating n)
    (other : (∀ t, a ≠ .deliver r t) ∧ (∀ e, a ≠ .fail r e) ∧ a ≠ .abort r) :
    ∃ x', c'.service.requests[r]? = some x' ∧ x'.stage = .creating n := by
  have foreign : a.caller? ≠ some r := by
    intro own
    cases a <;> cases own
    case advance b => simp [step, Service.advance, found, at'] at moved
    case deliver t => exact other.1 t rfl
    case fail e => exact other.2.1 e rfl
    case abort => exact other.2.2 rfl
  obtain ⟨x', found', -⟩ := requestGrows (stepCases moved) found
  refine ⟨x', found', ?_⟩
  rcases othersKeep (stepCases moved) foreign found' with ⟨y, before, -, same⟩ | ⟨new, -⟩
  · cases found.symm.trans before
    exact same.trans at'
  · exact absurd new (beyond found)

theorem endedStays (step : Step c a c') {r : Nat} {x : Request} (found : c.service.requests[r]? = some x)
    (ended : x.stage.ended = true) : ∃ x', c'.service.requests[r]? = some x' ∧ x'.stage.ended = true := by
  obtain ⟨x', found', -⟩ := requestGrows step found
  refine ⟨x', found', ?_⟩
  cases requestCame step found' with
  | same before =>
    cases found.symm.trans before
    exact ended
  | asked p new => exact absurd new (beyond found)
  | moved before at' move =>
    cases found.symm.trans before
    rw [at'] at ended
    cases move <;> contradiction
  | released before =>
    cases found.symm.trans before
    exact ended
  | left before =>
    cases found.symm.trans before
    exact ended

theorem tunnelsSame (step : Step c a c') (other : ∀ admission bufferSize statistics,
    a ≠ .make admission bufferSize statistics) : c'.service.tunnels.length = c.service.tunnels.length := by
  cases step with
  | make => exact absurd rfl (other _ _ _)
  | _ => simp [staged, lived, begin]

theorem disposeService {t : TunnelId} (moved : c.step (.dispose t) = some c') : c'.service = c.service := by
  simp only [step] at moved
  split at moved <;> cases moved
  rfl

end Shared

namespace Gateway

variable {u : Setup} {g g' : Gateway} {action : Action}

theorem creatingIff {r : Nat} : g.isCreating r = true ↔
    ∃ x n, g.shared.service.requests[r]? = some x ∧ x.stage = .creating n := by
  unfold isCreating Service.stage?
  cases found : g.shared.service.requests[r]? with
  | none => simp
  | some x => cases at' : x.stage <;> simp [at']

theorem madeStep (step : Step u g action g')
    (made : ∀ t < g.shared.service.tunnels.length, ∃ r, g.tunnel? r = some t) :
    ∀ t < g'.shared.service.tunnels.length, ∃ r, g'.tunnel? r = some t := by
  have kept {t : TunnelId} (known : t < g.shared.service.tunnels.length) : ∃ r, g'.tunnel? r = some t :=
    (made t known).imp fun r => makesKept (stepMakes step)
  intro t known
  cases step with
  | @act a shared free did =>
    have same : shared.service.tunnels.length = g.shared.service.tunnels.length := by
      refine Shared.tunnelsSame (Shared.stepCases did) fun _ _ _ makes => ?_
      subst makes
      contradiction
    exact kept (same ▸ known)
  | @make r target around x w shared found fresh fits now did =>
    cases did
    simp only [List.length_append, List.length_singleton] at known
    rcases Nat.lt_or_eq_of_le (Nat.le_of_lt_succ known) with old | new
    · exact kept old
    · exact ⟨r, by simp [waitTunnel, now, new]⟩
  | @wait _ r w shared same fits did =>
    rcases did with rfl | ⟨t, did⟩
    · exact kept known
    · exact kept (Shared.tunnelsSame (Shared.stepCases did) nofun ▸ known)
  | @conclude r ending shared ended did =>
    refine kept (Shared.tunnelsSame (Shared.stepCases did) (fun _ _ _ => ?_) ▸ known)
    cases ending with
    | left => exact nofun
    | told outcome => cases outcome <;> exact nofun

theorem madeRun {actions : List Action} (ran : run u {} actions = some g) :
    ∀ t < g.shared.service.tunnels.length, ∃ r, g.tunnel? r = some t := by
  induction actions using List.reverseRecOn generalizing g with
  | nil =>
    cases ran
    exact nofun
  | append_singleton past action ih =>
    obtain ⟨d, before, moved⟩ := runLast ran
    exact madeStep (stepCases moved) (ih before)

theorem stepWaits (moved : step u g action = some g') (q : Nat) : g'.waits q = g.waits q ∨
    g.isCreating q = true ∧ g'.shared.service.requests = g.shared.service.requests := by
  have waited {r : Nat} {w : Wait} {shared : Shared} (waits : g.isWaiting r = true)
      (same : shared.service.requests = g.shared.service.requests)
      (now : g' = { g.setWait r w with shared }) :
      g'.waits q = g.waits q ∨ g.isCreating q = true ∧ g'.shared.service.requests = g.shared.service.requests := by
    subst now
    by_cases own : q = r
    · simp only [isWaiting, Bool.and_eq_true] at waits
      exact .inr ⟨own ▸ waits.1, same⟩
    · exact .inl (by simp [setWait, own])
  cases action with
  | act a =>
    simp only [step] at moved
    split at moved <;> try contradiction
    obtain ⟨shared, -, rfl⟩ := shareSome moved
    exact .inl rfl
  | begin r target around =>
    simp only [step] at moved
    split at moved <;> try contradiction
    split at moved <;> try contradiction
    rename_i waits
    unfold beginMaking at moved
    dsimp only at moved
    split at moved
    · obtain ⟨shared, did, now⟩ := shareSome moved
      exact waited waits (by cases did; rfl) now
    · cases moved
      exact waited waits rfl rfl
  | look r look =>
    simp only [step] at moved
    split at moved <;> try contradiction
    rename_i waits
    split at moved
    · simp only [lookAt] at moved
      obtain ⟨shared, did, now⟩ := shareClosing moved
      refine waited waits ?_ now
      rcases did with rfl | ⟨t, did⟩
      · rfl
      · exact congrArg Service.requests (Shared.disposeService did)
    · split at moved <;> cases moved
      exact waited waits rfl rfl
  | leave r =>
    simp only [step] at moved
    split at moved <;> cases moved
    rename_i waits
    exact waited waits rfl rfl
  | conclude r =>
    obtain ⟨ending, -, moved⟩ := Option.bind_eq_some_iff.mp moved
    obtain ⟨shared, -, rfl⟩ := shareSome moved
    exact .inl rfl

theorem stepCreating (moved : step u g action = some g') {q : Nat} (waits : g.isCreating q = true) :
    g'.isCreating q = true ∨ ∃ ending, (g.waits q).ending = some ending ∧ g'.waits = g.waits ∧
      g.shared.step (ending.action q) = some g'.shared := by
  obtain ⟨x, n, found, at'⟩ := creatingIff.mp waits
  have still {a : Shared.Action} (did : g.shared.step a = some g'.shared)
      (other : (∀ t, a ≠ .deliver q t) ∧ (∀ e, a ≠ .fail q e) ∧ a ≠ .abort q) : g'.isCreating q = true := by
    obtain ⟨x', found', now⟩ := Shared.creatingStays did found at' other
    exact creatingIff.mpr ⟨x', n, found', now⟩
  have same (shared : g'.shared = g.shared) : g'.isCreating q = true := by
    rw [creatingIff, shared]
    exact ⟨x, n, found, at'⟩
  cases stepCases moved with
  | @act a shared free did =>
    refine .inl (still did ⟨fun t => ?_, fun e => ?_, ?_⟩) <;> rintro rfl <;> contradiction
  | make _ _ _ _ did => exact .inl (still did ⟨nofun, nofun, nofun⟩)
  | wait _ _ did =>
    rcases did with shared | ⟨t, did⟩
    · exact .inl (same shared)
    · exact .inl (still did ⟨nofun, nofun, nofun⟩)
  | @conclude r ending shared ended did =>
    by_cases own : r = q
    · subst own
      exact .inr ⟨ending, ended, rfl, did⟩
    · refine .inl (still did ?_)
      cases ending with
      | left => simp [Ending.action, own]
      | told outcome => cases outcome <;> simp [Ending.action, Shared.Action.ending, own]

def Placed (g : Gateway) (r : Nat) (t : TunnelId) : Prop :=
  (r, t) ∈ g.shared.deliveries ∨ g.isCreating r = true ∨
    (g.waits r).keeps = false ∧ ∃ x, g.shared.service.requests[r]? = some x ∧ x.stage.ended = true

theorem endingPlaces {r : Nat} {t : TunnelId} {ending : Ending} {shared : Shared} (fits : (g.waits r).Fits)
    (made : g.tunnel? r = some t) (waits : g.isCreating r = true) (ended : (g.waits r).ending = some ending)
    (did : g.shared.step (ending.action r) = some shared) : Placed { g with shared } r t := by
  obtain ⟨x, n, found, at'⟩ := creatingIff.mp waits
  cases ending with
  | left =>
    cases (Shared.abortStep found at').symm.trans did
    exact .inr (.inr ⟨by simp [Wait.keeps, ended], _, Shared.setSelf found _, rfl⟩)
  | told outcome =>
    cases outcome with
    | error e =>
      cases (Shared.failStep found at' e).symm.trans did
      exact .inr (.inr ⟨by simp [Wait.keeps, ended], _, Shared.setSelf found _, rfl⟩)
    | ok t' =>
      cases made.symm.trans (fits t' ended)
      simp only [Ending.action, Shared.Action.ending, Shared.step] at did
      split at did <;> try contradiction
      obtain ⟨s, -, rfl⟩ := Option.map_eq_some_iff.mp did
      exact .inl (by simp)

theorem handedStays (shares : Shares g g' action) {r : Nat} {t : TunnelId} (mem : (r, t) ∈ g.shared.deliveries) :
    (r, t) ∈ g'.shared.deliveries := by
  cases shares with
  | nothing same => exact same ▸ mem
  | one a did => exact Shared.deliveryKept (Shared.stepCases did) mem

theorem endedStays (shares : Shares g g' action) {r : Nat} {x : Request}
    (found : g.shared.service.requests[r]? = some x) (ended : x.stage.ended = true) :
    ∃ x', g'.shared.service.requests[r]? = some x' ∧ x'.stage.ended = true := by
  cases shares with
  | nothing same => exact ⟨x, same ▸ found, ended⟩
  | one a did => exact Shared.endedStays (Shared.stepCases did) found ended

theorem placedStep (moved : step u g action = some g') (sound : Sound u g)
    (placed : ∀ r t, g.tunnel? r = some t → Placed g r t) : ∀ r t, g'.tunnel? r = some t → Placed g' r t := by
  have going {r : Nat} {t : TunnelId} (made : g'.tunnel? r = some t) (waits : g.isCreating r = true) :
      Placed g' r t := by
    rcases stepCreating moved waits with still | ⟨ending, ended, same, did⟩
    · exact .inr (.inl still)
    · have before : g.tunnel? r = some t := by rw [← made, tunnel?, tunnel?, same]
      have now : g' = { g with shared := g'.shared } := by rw [← same]
      exact now ▸ endingPlaces (sound.fits r) before waits ended did
  intro r t made
  rcases stepWaits moved r with same | ⟨waits, -⟩
  · have before : g.tunnel? r = some t := by rw [← made, tunnel?, tunnel?, same]
    rcases placed r t before with handed | waits | ⟨gone, x, found, ended⟩
    · exact .inl (handedStays (stepShares (stepCases moved)) handed)
    · exact going made waits
    · exact .inr (.inr ⟨same ▸ gone, endedStays (stepShares (stepCases moved)) found ended⟩)
  · exact going made waits

theorem placedRun {actions : List Action} (ran : run u {} actions = some g) :
    ∀ r t, g.tunnel? r = some t → Placed g r t := by
  induction actions using List.reverseRecOn generalizing g with
  | nil =>
    cases ran
    exact nofun
  | append_singleton past action ih =>
    obtain ⟨d, before, moved⟩ := runLast ran
    exact placedStep moved (soundRun before) (ih before)

end Gateway
end TunnelRelay
