import Mathlib.Data.List.Induction
import TunnelRelay.Proofs.Pool.Origins

/-! What only grows along a run: a tunnel's life goes one way, a request keeps its
profile, its tunnel and its result, deliveries are never taken back. -/
namespace TunnelRelay.Shared
open Service (Request Stage)
open Teardown (Phase)

theorem stillThere {α : Type} {l l' : List α} {i : Nat} {x : α} (found : l[i]? = some x)
    (longer : l.length ≤ l'.length) : ∃ y, l'[i]? = some y := by
  obtain ⟨bound, -⟩ := List.getElem?_eq_some_iff.mp found
  exact ⟨_, List.getElem?_eq_getElem (Nat.lt_of_lt_of_le bound longer)⟩

theorem beyond {α : Type} {l : List α} {i : Nat} {x : α} (found : l[i]? = some x) : ¬ l.length ≤ i :=
  Nat.not_le.mpr (List.getElem?_eq_some_iff.mp found).1

theorem tunnelsGrow {c c' : Shared} {a : Action} (step : Step c a c') :
    c.service.tunnels.length ≤ c'.service.tunnels.length := by
  cases step <;> simp [staged, lived, begin]

theorem requestsGrow {c c' : Shared} {a : Action} (step : Step c a c') :
    c.service.requests.length ≤ c'.service.requests.length := by
  cases step <;> simp [staged, lived, begin]

theorem teardownsGrow {c c' : Shared} {a : Action} (step : Step c a c') :
    c.teardowns.length ≤ c'.teardowns.length := by
  cases step <;> simp [begin, phased]

structure LifeGrows (l l' : Lifecycle ProfileKey) : Prop where
  closed : l.closed = true → l'.closed = true
  cancelled : l.cancelled = true → l'.cancelled = true
  released : l.listening = false → l'.listening = false

theorem LifeGrows.refl (l : Lifecycle ProfileKey) : LifeGrows l l := ⟨id, id, id⟩

theorem tearsGrows {old new : Phase} {l l' : Lifecycle ProfileKey} (tears : Tears old l new l') : LifeGrows l l' := by
  cases tears with
  | flag => exact ⟨fun _ => rfl, id, id⟩
  | cancel => exact ⟨id, fun _ => rfl, id⟩
  | unbind => exact ⟨id, id, fun _ => rfl⟩
  | take => exact ⟨id, id, id⟩

theorem lifeGrows {c c' : Shared} {a : Action} (step : Step c a c') {t : TunnelId} {l : Lifecycle ProfileKey}
    (found : c.service.life? t = some l) : ∃ l', c'.service.life? t = some l' ∧ LifeGrows l l' := by
  obtain ⟨y, tunnel, rfl⟩ := Option.map_eq_some_iff.mp found
  obtain ⟨y', later⟩ := stillThere tunnel (tunnelsGrow step)
  obtain ⟨l', known⟩ : ∃ l', c'.service.life? t = some l' := ⟨_, lifeOf later⟩
  refine ⟨l', known, ?_⟩
  cases lifeCame step known with
  | same before =>
    cases found.symm.trans before
    exact .refl _
  | made new => exact absurd new (beyond tunnel)
  | watched before =>
    cases found.symm.trans before
    exact ⟨id, id, id⟩
  | torn before _ _ _ tears =>
    cases found.symm.trans before
    exact tearsGrows tears

structure RequestGrows (x x' : Request) : Prop where
  profile : x'.profile = x.profile
  tunnel : ∀ t, x.stage.tunnel? = some t → x'.stage.tunnel? = some t
  returned : ∀ result, x.stage = .done result → x'.stage = .done result
  released : x.released = true → x'.released = true

theorem RequestGrows.refl (x : Request) : RequestGrows x x := ⟨rfl, fun _ h => h, fun _ h => h, id⟩

theorem moveBusy {c c' : Shared} {a : Action} {q : Nat} {k : ProfileKey} {old new : Stage}
    (move : Move c c' a q k old new) (result : Except Failure TunnelId) : old ≠ .done result := by
  cases move <;> simp

theorem moveTunnel {c c' : Shared} {a : Action} {q : Nat} {k : ProfileKey} {old new : Stage}
    (move : Move c c' a q k old new) (t : TunnelId) (tunnel : old.tunnel? = some t) : new.tunnel? = some t := by
  cases move <;> first | exact tunnel | cases tunnel

theorem requestGrows {c c' : Shared} {a : Action} (step : Step c a c') {q : Nat} {y : Request}
    (found : c.service.requests[q]? = some y) :
    ∃ y', c'.service.requests[q]? = some y' ∧ RequestGrows y y' := by
  obtain ⟨y', later⟩ := stillThere found (requestsGrow step)
  refine ⟨y', later, ?_⟩
  cases requestCame step later with
  | same before =>
    cases found.symm.trans before
    exact .refl y
  | asked p new => exact absurd new (beyond found)
  | moved before at' move =>
    cases found.symm.trans before
    subst at'
    exact ⟨rfl, moveTunnel move, fun result returned => absurd returned (moveBusy move result), id⟩
  | released before =>
    cases found.symm.trans before
    exact ⟨rfl, fun _ h => h, fun _ h => h, fun _ => rfl⟩
  | left before =>
    cases found.symm.trans before
    exact ⟨rfl, fun _ h => h, fun _ h => h, id⟩

theorem teardownGoes {c c' : Shared} {a : Action} (step : Step c a c') {i : Nat} {d : Teardown}
    (found : c.teardowns[i]? = some d) :
    c'.teardowns[i]? = some d ∨
      ∃ phase, c'.teardowns[i]? = some { d with phase } ∧ Goes c c' d.tunnel d.phase phase := by
  obtain ⟨d', later⟩ := stillThere found (teardownsGrow step)
  cases teardownCame step later with
  | same before =>
    cases found.symm.trans before
    exact .inl later
  | begun new => exact absurd new (beyond found)
  | moved before at' goes =>
    cases found.symm.trans before
    exact .inr ⟨_, later, at' ▸ goes⟩

theorem deliveriesGrow {c c' : Shared} {a : Action} (step : Step c a c') :
    ∃ more, c'.deliveries = c.deliveries ++ more := by
  cases step with
  | deliver => exact ⟨_, rfl⟩
  | _ => exact ⟨[], (List.append_nil _).symm⟩

theorem deliveryKept {c c' : Shared} {a : Action} (step : Step c a c') {q : Nat × TunnelId}
    (mem : q ∈ c.deliveries) : q ∈ c'.deliveries := by
  obtain ⟨more, grown⟩ := deliveriesGrow step
  exact grown ▸ List.mem_append_left more mem

theorem freshBefore {c c' : Shared} {a : Action} (step : Step c a c') (fresh : c'.Fresh) : c.Fresh := by
  obtain ⟨more, grown⟩ := deliveriesGrow step
  rw [Fresh, grown, List.map_append] at fresh
  exact (List.nodup_append.mp fresh).1

theorem freshSame {c : Shared} (fresh : c.Fresh) {q r : Nat} {t : TunnelId} (first : (q, t) ∈ c.deliveries)
    (second : (r, t) ∈ c.deliveries) : q = r :=
  congrArg Prod.fst (List.inj_on_of_nodup_map fresh first second rfl)

theorem openBefore {c c' : Shared} {a : Action} (step : Step c a c') {t : TunnelId}
    (opened : c'.service.isOpen t = true) {l : Lifecycle ProfileKey} (found : c.service.life? t = some l) :
    c.service.isOpen t = true := by
  obtain ⟨l', found', grows⟩ := lifeGrows step found
  obtain ⟨m, known, still⟩ := Service.isOpenLife.mp opened
  cases found'.symm.trans known
  refine Service.isOpenLife.mpr ⟨l, found, ?_⟩
  cases closed : l.closed with
  | false => rfl
  | true => exact absurd (grows.closed closed) (by simp [still])

theorem closedAfter {c c' : Shared} {a : Action} (step : Step c a c') {t : TunnelId} {l : Lifecycle ProfileKey}
    (found : c.service.life? t = some l) (closed : c.service.isOpen t = false) : c'.service.isOpen t = false := by
  cases opened : c'.service.isOpen t with
  | false => rfl
  | true => simp [openBefore step opened found] at closed

theorem closedLife {s : Service} {t : TunnelId} {l : Lifecycle ProfileKey} (found : s.life? t = some l) :
    s.isOpen t = false ↔ l.closed = true := by
  constructor
  · intro shut
    cases closed : l.closed with
    | true => rfl
    | false => simp [Service.isOpenLife.mpr ⟨l, found, closed⟩] at shut
  · intro closed
    cases opened : s.isOpen t with
    | false => rfl
    | true =>
      obtain ⟨m, known, still⟩ := Service.isOpenLife.mp opened
      cases found.symm.trans known
      simp [closed] at still

theorem runNil (c : Shared) : c.run [] = some c := rfl

theorem runStep {c d e : Shared} {a : Action} {rest : List Action} (first : c.step a = some d)
    (later : d.run rest = some e) : c.run (a :: rest) = some e := by
  simp [run, first, later]

theorem runAppend {c : Shared} {first second : List Action} :
    c.run (first ++ second) = (c.run first).bind (run · second) := by
  induction first generalizing c with
  | nil => rfl
  | cons a rest ih =>
    simp only [List.cons_append, run]
    cases c.step a with
    | none => rfl
    | some next => exact ih

theorem runKeeps {P : Shared → Prop} (keeps : ∀ {c c' a}, Step c a c' → P c → P c') {c c' : Shared}
    {actions : List Action} (before : P c) (ran : c.run actions = some c') : P c' := by
  induction actions generalizing c with
  | nil =>
    cases Option.some.inj ran
    exact before
  | cons a rest ih =>
    obtain ⟨next, moved, ran⟩ := Option.bind_eq_some_iff.mp ran
    exact ih (keeps (stepCases moved) before) ran

theorem runSplit {c c' : Shared} {first second : List Action} (ran : c.run (first ++ second) = some c') {d : Shared}
    (before : c.run first = some d) : d.run second = some c' := by
  rw [runAppend, before] at ran
  exact ran

theorem runLast {c c' : Shared} {actions : List Action} {a : Action} (ran : c.run (actions ++ [a]) = some c') :
    ∃ d, c.run actions = some d ∧ d.step a = some c' := by
  rw [runAppend] at ran
  obtain ⟨d, before, last⟩ := Option.bind_eq_some_iff.mp ran
  obtain ⟨e, moved, stays⟩ := Option.bind_eq_some_iff.mp last
  cases Option.some.inj stays
  exact ⟨d, before, moved⟩

theorem reachableKeeps {P : Shared → Prop} (start : P {})
    (keeps : ∀ {c c' a}, c.Reachable → Step c a c' → P c → P c') {c : Shared} (reachable : c.Reachable) : P c := by
  obtain ⟨actions, ran⟩ := reachable
  induction actions using List.reverseRecOn generalizing c with
  | nil =>
    cases Option.some.inj ran
    exact start
  | append_singleton actions a ih =>
    obtain ⟨d, before, moved⟩ := runLast ran
    exact keeps ⟨actions, before⟩ (stepCases moved) (ih before)

theorem reachableRun {c c' : Shared} {actions : List Action} (reachable : c.Reachable)
    (ran : c.run actions = some c') : c'.Reachable := by
  obtain ⟨before, arrived⟩ := reachable
  exact ⟨before ++ actions, by rw [runAppend, arrived]; exact ran⟩

theorem reachableStep {c c' : Shared} {a : Action} (reachable : c.Reachable) (moved : c.step a = some c') :
    c'.Reachable :=
  reachableRun reachable (runStep moved (runNil c'))

theorem keyedReachable {c : Shared} (reachable : c.Reachable) : c.service.pool.Keyed :=
  reachableKeeps (P := fun d => d.service.pool.Keyed) List.nodup_nil (fun _ => keyedStep) reachable

theorem freshRun {c c' : Shared} {actions : List Action} (ran : c.run actions = some c') (fresh : c'.Fresh) :
    c.Fresh :=
  runKeeps (P := fun d => d.Fresh → c.Fresh) (fun step before fresh => before (freshBefore step fresh)) id ran fresh

def desktop : Profile := ⟨.rdp, .allowAll, ⟨"p", "z", "n"⟩, 3389, none, by decide⟩

def shell : Profile := ⟨.ssh, .allowAll, ⟨"p", "z", "n"⟩, 22, none, by decide⟩

def asking (p : Profile) (r : Nat) : List Action :=
  [.ask p, .advance r false, .advance r false, .advance r false]

def making (r : Nat) (t : TunnelId) : List Action := [.make ⟨true, fun _ => true⟩ 1024 {}, .deliver r t]

def after (actions : List Action) : Shared := (run {} actions).getD {}

theorem afterReachable {actions : List Action} (runs : (run {} actions).isSome = true) :
    (after actions).Reachable := by
  obtain ⟨c, ran⟩ := Option.isSome_iff_exists.mp runs
  exact ⟨actions, by simp [after, ran]⟩

end TunnelRelay.Shared
