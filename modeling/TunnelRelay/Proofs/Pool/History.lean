import TunnelRelay.Proofs.Pool.References

/-! What is published about a tunnel. Every handler, and every handler that a teardown
has in hand, owes the tunnel's end one publication. For a tunnel made anew the one
request that it was handed to registers the one handler, so what has been published
and what is owed balance at each of that request's stages. -/
namespace TunnelRelay
open Service (Request Stage Event)

namespace Teardown

def Phase.unpublished : Phase → Nat
  | forgetting _ rest | publishing rest => rest.length + 1
  | _ => 0

theorem unpublishedNotify (keys : List ProfileKey) : (Phase.notify keys).unpublished = keys.length := by
  cases keys <;> rfl

end Teardown

namespace Shared
open Teardown (Phase)

def owes (t : TunnelId) (d : Teardown) : Nat := if d.tunnel = t then d.phase.unpublished else 0

theorem owesNotify {t : TunnelId} {d : Teardown} (same : d.tunnel = t) {keys : List ProfileKey} :
    owes t { d with phase := .notify keys } = keys.length := by
  simp [owes, same, Teardown.unpublishedNotify]

def owedBy (t : TunnelId) : List Teardown → Nat
  | [] => 0
  | d :: rest => owes t d + owedBy t rest

theorem owedAppend (t : TunnelId) (l : List Teardown) (d : Teardown) :
    owedBy t (l ++ [d]) = owedBy t l + owes t d := by
  induction l with
  | nil => simp [owedBy]
  | cons head tail ih =>
    simp only [List.cons_append, owedBy, ih]
    omega

theorem owedSet (t : TunnelId) {l : List Teardown} {i : Nat} {d : Teardown} (found : l[i]? = some d)
    (d' : Teardown) : owedBy t (l.set i d') + owes t d = owedBy t l + owes t d' := by
  induction l generalizing i with
  | nil => simp at found
  | cons head tail ih =>
    cases i with
    | zero =>
      cases Option.some.inj found
      simp only [List.set_cons_zero, owedBy]
      omega
    | succ i =>
      have rest := ih (i := i) found
      simp only [List.set_cons_succ, owedBy]
      omega

theorem owedMember {t : TunnelId} {l : List Teardown} {i : Nat} {d : Teardown} (found : l[i]? = some d) :
    owes t d ≤ owedBy t l := by
  have without := owedSet t found { d with phase := .ended }
  have none' : owes t { d with phase := .ended } = 0 := by simp [owes, Phase.unpublished]
  omega

theorem owedApart {t : TunnelId} {l : List Teardown} {i j : Nat} {d e : Teardown} (found : l[i]? = some d)
    (other : l[j]? = some e) (different : i ≠ j) : owes t d + owes t e ≤ owedBy t l := by
  have without := owedSet t found { d with phase := .ended }
  have none' : owes t { d with phase := .ended } = 0 := by simp [owes, Phase.unpublished]
  have still : (l.set i { d with phase := .ended })[j]? = some e := (List.getElem?_set_ne different).trans other
  have rest := owedMember (t := t) still
  omega

def handlerCount (s : Service) (t : TunnelId) : Nat :=
  match s.life? t with
  | some l => l.handlers.length
  | none => 0

def owed (c : Shared) (t : TunnelId) : Nat := handlerCount c.service t + owedBy t c.teardowns

theorem handlerLived {s : Service} {u : TunnelId} {y : Tunnel ProfileKey} (tunnel : s.tunnels[u]? = some y)
    (life : Lifecycle ProfileKey) (t : TunnelId) :
    handlerCount (lived s u y life) t = if t = u then life.handlers.length else handlerCount s t := by
  simp only [handlerCount, lifeLived tunnel]
  by_cases same : t = u <;> simp [same]

theorem handlerSame {s : Service} {u : TunnelId} {y : Tunnel ProfileKey} (tunnel : s.tunnels[u]? = some y)
    {life : Lifecycle ProfileKey} (same : life.handlers = y.life.handlers) (t : TunnelId) :
    handlerCount (lived s u y life) t = handlerCount s t := by
  rw [handlerLived tunnel]
  split
  · rename_i here
    subst here
    simp [handlerCount, lifeOf tunnel, same]
  · rfl

theorem handlerMade (s : Service) (x : Tunnel ProfileKey) (empty : x.life.handlers = []) (t : TunnelId) :
    handlerCount { s with tunnels := s.tunnels ++ [x] } t = handlerCount s t := by
  rcases Nat.lt_trichotomy t s.tunnels.length with known | rfl | beyond
  · simp [handlerCount, Service.life?, List.getElem?_append_left known]
  · simp [handlerCount, Service.life?, empty]
  · have out : (s.tunnels ++ [x])[t]? = none := List.getElem?_eq_none (by simp; omega)
    have before : s.tunnels[t]? = none := List.getElem?_eq_none (by omega)
    simp [handlerCount, Service.life?, out, before]

theorem owedPhased {c c' : Shared} (t : TunnelId) {i : Nat} {d : Teardown} {phase : Phase}
    (found : c.teardowns[i]? = some d) (teardowns : c'.teardowns = c.phased i d phase)
    (handlers : handlerCount c'.service t = handlerCount c.service t)
    (same : phase.unpublished = d.phase.unpublished) : c'.owed t = c.owed t := by
  have moved := owedSet t found { d with phase }
  have equal : owes t { d with phase } = owes t d := by simp [owes, same]
  rw [equal] at moved
  simp only [owed, handlers, teardowns, phased]
  omega

theorem owedTaken {c : Shared} (t : TunnelId) {i : Nat} {d : Teardown} {y : Tunnel ProfileKey}
    (found : c.teardowns[i]? = some d) (at' : d.phase = .taking) (tunnel : c.service.tunnels[d.tunnel]? = some y) :
    handlerCount (lived c.service d.tunnel y { y.life with handlers := [] }) t +
      owedBy t (c.phased i d (.notify y.life.handlers)) = c.owed t := by
  have moved := owedSet t found { d with phase := .notify y.life.handlers }
  rw [handlerLived tunnel]
  by_cases same : d.tunnel = t
  · subst same
    have before : handlerCount c.service d.tunnel = y.life.handlers.length := by simp [handlerCount, lifeOf tunnel]
    have taking : owes d.tunnel d = 0 := by simp [owes, at', Phase.unpublished]
    rw [owesNotify rfl, taking] at moved
    simp only [if_true, List.length_nil, owed, phased, before]
    omega
  · simp only [owes, if_neg same] at moved
    simp only [if_neg (Ne.symm same), owed, phased]
    omega

theorem owedWatched {c : Shared} {t : TunnelId} {y : Tunnel ProfileKey} (tunnel : c.service.tunnels[t]? = some y)
    (k : ProfileKey) :
    handlerCount (lived c.service t y { y.life with handlers := y.life.handlers ++ [k] }) t + owedBy t c.teardowns =
      c.owed t + 1 := by
  have before : handlerCount c.service t = y.life.handlers.length := by simp [handlerCount, lifeOf tunnel]
  simp only [handlerLived tunnel, if_true, List.length_append, List.length_singleton, owed, before]
  omega

theorem owedPublished {c : Shared} (t : TunnelId) {i : Nat} {d : Teardown} {rest : List ProfileKey}
    (found : c.teardowns[i]? = some d) (at' : d.phase = .publishing rest) :
    owedBy t (c.phased i d (.notify rest)) + (if d.tunnel = t then 1 else 0) = owedBy t c.teardowns := by
  have moved := owedSet t found { d with phase := .notify rest }
  by_cases same : d.tunnel = t
  · have publishing : owes t d = rest.length + 1 := by simp [owes, same, at', Phase.unpublished]
    rw [owesNotify same, publishing] at moved
    simp only [if_pos same, phased]
    omega
  · simp only [owes, if_neg same] at moved
    simp only [if_neg same, phased]
    omega

/- What a request of a stage has seen published about the tunnel that it was handed. -/
def Due (t : TunnelId) (history : List Event) (owed : Nat) (closed : Prop) : Stage → Prop
  | .promoting .. | .settling .. | .announcing _ => history = [] ∧ owed = 0
  | .watching _ => history = [.created t] ∧ owed = 0
  | .telling _ => history = [.created t] ∧ owed = 0 ∧ closed
  | .done _ => history = [.created t] ∧ owed = 1 ∨ history = [.created t, .closed t] ∧ owed = 0 ∧ closed
  | _ => False

theorem dueClosed {t : TunnelId} {history : List Event} {owed : Nat} {p q : Prop} {stage : Stage}
    (due : Due t history owed p stage) (later : p → q) : Due t history owed q stage := by
  cases stage with
  | telling => exact ⟨due.1, due.2.1, later due.2.2⟩
  | done => exact due.imp_right fun finished => ⟨finished.1, finished.2.1, later finished.2.2⟩
  | _ => exact due

theorem dueShape {t : TunnelId} {history : List Event} {owed : Nat} {p : Prop} {stage : Stage}
    (due : Due t history owed p stage) :
    history = [] ∨ history = [.created t] ∨ history = [.created t, .closed t] ∧ p := by
  cases stage with
  | promoting => exact .inl due.1
  | settling => exact .inl due.1
  | announcing => exact .inl due.1
  | watching => exact .inr (.inl due.1)
  | telling => exact .inr (.inl due.1)
  | done =>
    rcases due with ⟨one, -⟩ | ⟨both, -, finished⟩
    · exact .inr (.inl one)
    · exact .inr (.inr ⟨both, finished⟩)
  | _ => exact due.elim

theorem dueOwed {t : TunnelId} {history : List Event} {owed : Nat} {p : Prop} {stage : Stage}
    (due : Due t history owed p stage) (some' : 0 < owed) : owed = 1 ∧ ∃ result, stage = .done result := by
  cases stage with
  | done result =>
    rcases due with ⟨-, one⟩ | ⟨-, none', -⟩
    · exact ⟨one, result, rfl⟩
    · omega
  | _ =>
    simp only [Due] at due
    try omega

theorem dueEnded {t : TunnelId} {history : List Event} {owed : Nat} {p : Prop} {stage : Stage}
    (due : Due t history owed p stage) (finished : stage.ended = true) :
    history = [.created t] ∧ owed = 1 ∨ history = [.created t, .closed t] ∧ owed = 0 ∧ p := by
  cases stage with
  | done => exact due
  | aborted => exact due.elim
  | _ => contradiction

inductive Effect (c c' : Shared) (t : TunnelId) : Prop where
  | quiet (history : c'.history t = c.history t) (owed : c'.owed t = c.owed t)
      (stages : ∀ (r : Nat) (x x' : Request), (r, t) ∈ c.deliveries → c.service.requests[r]? = some x →
        c'.service.requests[r]? = some x' → ∀ h n, Due t h n (c'.service.isOpen t = false) x.stage →
          Due t h n (c'.service.isOpen t = false) x'.stage)
  | announced {r : Nat} {x : Request} (found : c.service.requests[r]? = some x) (at' : x.stage = .announcing t)
      (now : c'.service.requests[r]? = some { x with stage := .watching t })
      (history : c'.history t = c.history t ++ [.created t]) (owed : c'.owed t = c.owed t)
  | watched {r : Nat} {x : Request} (found : c.service.requests[r]? = some x) (at' : x.stage = .watching t)
      (now : c'.service.requests[r]? = some { x with stage := .done (.ok t) })
      (history : c'.history t = c.history t) (owed : c'.owed t = c.owed t + 1)
  | told {r : Nat} {x : Request} (found : c.service.requests[r]? = some x) (at' : x.stage = .telling t)
      (now : c'.service.requests[r]? = some { x with stage := .done (.ok t) })
      (history : c'.history t = c.history t ++ [.closed t]) (owed : c'.owed t = c.owed t)
  | published (same : c'.service.requests = c.service.requests) (closed : c'.service.isOpen t = false)
      (history : c'.history t = c.history t ++ [.closed t]) (owed : c'.owed t + 1 = c.owed t)

theorem dueSame {c c' : Shared} {t : TunnelId} (same : c'.service.requests = c.service.requests) {p : Prop} :
    ∀ (r : Nat) (x x' : Request), (r, t) ∈ c.deliveries → c.service.requests[r]? = some x →
      c'.service.requests[r]? = some x' → ∀ h n, Due t h n p x.stage → Due t h n p x'.stage := by
  intro r x x' _ found found' h n due
  rw [same] at found'
  cases found.symm.trans found'
  exact due

theorem dueSet {c c' : Shared} {t : TunnelId} {r : Nat} {x x' : Request} {p : Prop}
    (found : c.service.requests[r]? = some x) (set : c'.service.requests = c.service.requests.set r x')
    (here : (r, t) ∈ c.deliveries → ∀ h n, Due t h n p x.stage → Due t h n p x'.stage) :
    ∀ (q : Nat) (y y' : Request), (q, t) ∈ c.deliveries → c.service.requests[q]? = some y →
      c'.service.requests[q]? = some y' → ∀ h n, Due t h n p y.stage → Due t h n p y'.stage := by
  intro q y y' mem other other' h n due
  rw [set] at other'
  rcases setCases found other' with ⟨rfl, rfl⟩ | ⟨-, same⟩
  · cases found.symm.trans other
    exact here mem h n due
  · cases other.symm.trans same
    exact due

theorem historyPublished (s : Service) (e : Event) (t : TunnelId) :
    (s.publish e).published.filter (fun e => e.tunnel == t) =
      s.published.filter (fun e => e.tunnel == t) ++ if e.tunnel = t then [e] else [] := by
  by_cases same : e.tunnel = t <;> simp [Service.publish, same]

theorem quietStage {c c' : Shared} {t : TunnelId} {r : Nat} {x : Request} {stage : Stage}
    (found : c.service.requests[r]? = some x) (set : c'.service.requests = c.service.requests.set r { x with stage })
    (history : c'.history t = c.history t) (owed : c'.owed t = c.owed t)
    (here : (r, t) ∈ c.deliveries → ∀ h n, Due t h n (c'.service.isOpen t = false) x.stage →
      Due t h n (c'.service.isOpen t = false) stage) : Effect c c' t :=
  .quiet history owed (dueSet found set here)

theorem quietTorn {c c' : Shared} {t : TunnelId} {i : Nat} {d : Teardown} {phase : Phase}
    (found : c.teardowns[i]? = some d) (teardowns : c'.teardowns = c.phased i d phase)
    (requests : c'.service.requests = c.service.requests) (published : c'.service.published = c.service.published)
    (handlers : handlerCount c'.service t = handlerCount c.service t)
    (same : phase.unpublished = d.phase.unpublished) : Effect c c' t :=
  .quiet (by simp [history, published]) (owedPhased t found teardowns handlers same) (dueSame requests)

theorem effectStep {c c' : Shared} {a : Action} (step : Step c a c') (handed : Handed c) (referred : Referred c)
    (orderly : Orderly c) (t : TunnelId) : Effect c c' t := by
  cases step with
  | ask p =>
    refine .quiet rfl rfl fun r x x' _ found found' h n due => ?_
    cases (appendOld found _).symm.trans found'
    exact due
  | walk found free =>
    refine quietStage found rfl rfl rfl fun _ h n due => ?_
    rcases free with ⟨at', -⟩ | ⟨at', -⟩ <;> simp [at', Due] at due
  | hit found at' => exact quietStage found rfl rfl rfl fun _ h n due => by simp [at', Due] at due
  | register found at' => exact quietStage found rfl rfl rfl fun _ h n due => by simp [at', Due] at due
  | promote found at' => exact quietStage found rfl rfl rfl fun _ h n due => by simpa [at', Due] using due
  | settle found at' => exact quietStage found rfl rfl rfl fun _ h n due => by simpa [at', Due] using due
  | @announce r _ x u found at' =>
    by_cases same : u = t
    · subst same
      refine .announced found at' (setSelf found _) ?_ rfl
      exact (historyPublished c.service (.created u) u).trans (by simp [Event.tunnel, history])
    · refine quietStage found rfl ?_ rfl fun mem => ?_
      · exact (historyPublished c.service (.created u) t).trans (by simp [Event.tunnel, same, history])
      · exact absurd (handedSame handed found (congrArg Stage.tunnel? at') mem) same
  | @watch r _ x u y found at' tunnel =>
    by_cases same : u = t
    · subst same
      exact .watched found at' (setSelf found _) rfl (owedWatched tunnel _)
    · refine quietStage found rfl rfl ?_ fun mem => ?_
      · have frame := handlerLived tunnel { y.life with handlers := y.life.handlers ++ [x.profile.key] } t
        rw [if_neg (Ne.symm same)] at frame
        exact congrArg (· + owedBy t c.teardowns) frame
      · exact absurd (handedSame handed found (congrArg Stage.tunnel? at') mem) same
  | @overdue r _ x u y found at' tunnel closed =>
    refine quietStage found rfl rfl ?_ fun mem h n due => ?_
    · exact congrArg (· + owedBy t c.teardowns) (handlerSame tunnel rfl t)
    · cases handedSame handed found (congrArg Stage.tunnel? at') mem
      rw [at'] at due
      exact ⟨due.1, due.2, (closedLife (livedSelf tunnel y.life)).mpr closed⟩
  | @tell r _ x u found at' =>
    by_cases same : u = t
    · subst same
      refine .told found at' (setSelf found _) ?_ rfl
      exact (historyPublished c.service (.closed u) u).trans (by simp [Event.tunnel, history])
    · refine quietStage found rfl ?_ rfl fun mem => ?_
      · exact (historyPublished c.service (.closed u) t).trans (by simp [Event.tunnel, same, history])
      · exact absurd (handedSame handed found (congrArg Stage.tunnel? at') mem) same
  | deliver _ _ found at' => exact quietStage found rfl rfl rfl fun _ h n due => by simp [at', Due] at due
  | giveUp found at' => exact quietStage found rfl rfl rfl fun _ h n due => by simp [at', Due] at due
  | make =>
    refine .quiet rfl ?_ (dueSame rfl)
    exact congrArg (· + owedBy t c.teardowns) (handlerMade c.service _ rfl t)
  | relay tunnel life =>
    refine .quiet rfl ?_ (dueSame rfl)
    simp only [owed, handlerCount, lifeRelayed tunnel life]
  | refer => exact .quiet rfl rfl (dueSame rfl)
  | begin =>
    refine .quiet rfl ?_ (dueSame rfl)
    simp [owed, begin, owedAppend, owes, Phase.unpublished]
  | release found =>
    refine .quiet rfl ?_ (dueSet found rfl fun _ h n due => due)
    simp [owed, handlerCount, Service.life?, begin, owedAppend, owes, Phase.unpublished]
  | leave found => exact .quiet rfl rfl (dueSet found rfl fun _ h n due => due)
  | late found at' => exact quietTorn found rfl rfl rfl rfl (by simp [at', Phase.unpublished])
  | flag found at' tunnel =>
    exact quietTorn found rfl rfl rfl (handlerSame tunnel (by rfl) t) (by simp [at', Phase.unpublished])
  | cancel found at' tunnel =>
    exact quietTorn found rfl rfl rfl (handlerSame tunnel (by rfl) t) (by simp [at', Phase.unpublished])
  | unbind found at' tunnel =>
    exact quietTorn found rfl rfl rfl (handlerSame tunnel (by rfl) t) (by simp [at', Phase.unpublished])
  | take found at' tunnel => exact .quiet rfl (owedTaken t found at' tunnel) (dueSame rfl)
  | forget found at' next =>
    have present := notifyingHeld referred found (by simp [at', Phase.notifying])
    rcases next with ⟨-, rfl⟩ | ⟨absent, -⟩
    · exact quietTorn found rfl rfl rfl rfl (by simp [at', Phase.unpublished])
    · simp [present] at absent
  | @publish i d rest found at' =>
    have paid := owedPublished t found at'
    by_cases same : d.tunnel = t
    · subst same
      refine .published rfl (pastClosed orderly found (by simp [at'])) ?_ ?_
      · exact (historyPublished c.service (.closed d.tunnel) d.tunnel).trans (by simp [Event.tunnel, history])
      · rw [if_pos rfl] at paid
        exact congrArg (handlerCount c.service d.tunnel + ·) paid
    · refine .quiet ?_ ?_ (dueSame rfl)
      · exact (historyPublished c.service (.closed d.tunnel) t).trans (by simp [Event.tunnel, same, history])
      · rw [if_neg same] at paid
        exact congrArg (handlerCount c.service t + ·) paid

structure Balanced (c : Shared) : Prop where
  handed : ∀ (r : Nat) x t, (r, t) ∈ c.deliveries → c.service.requests[r]? = some x →
    Due t (c.history t) (c.owed t) (c.service.isOpen t = false) x.stage
  unhanded : ∀ t, (∀ r, (r, t) ∉ c.deliveries) → c.history t = [] ∧ c.owed t = 0

theorem unhandedStep {c c' : Shared} {t : TunnelId} (effect : Effect c c' t) (handed : Handed c)
    (balanced : Balanced c) (unhanded : ∀ r, (r, t) ∉ c.deliveries) : c'.history t = [] ∧ c'.owed t = 0 := by
  obtain ⟨silent, nothing⟩ := balanced.unhanded t unhanded
  have taken : ∀ {r : Nat} {x : Request}, c.service.requests[r]? = some x → x.stage.accepted? = some t → False :=
    fun found accepted => unhanded _ (handed.noted _ _ found t accepted)
  cases effect with
  | quiet history owed => exact ⟨history.trans silent, owed.trans nothing⟩
  | announced found at' => exact (taken found (congrArg Stage.accepted? at')).elim
  | watched found at' => exact (taken found (congrArg Stage.accepted? at')).elim
  | told found at' => exact (taken found (congrArg Stage.accepted? at')).elim
  | published _ _ _ owed => omega

theorem handedDue {c c' : Shared} {a : Action} (step : Step c a c') (handed : Handed c) (fresh : c.Fresh)
    {r : Nat} {x x' : Request} {t : TunnelId} (effect : Effect c c' t) (mem : (r, t) ∈ c.deliveries)
    (found : c.service.requests[r]? = some x) (found' : c'.service.requests[r]? = some x')
    (before : Due t (c.history t) (c.owed t) (c.service.isOpen t = false) x.stage) :
    Due t (c'.history t) (c'.owed t) (c'.service.isOpen t = false) x'.stage := by
  obtain ⟨l, known⟩ := handedLife handed mem
  have due := dueClosed before (closedAfter step known)
  -- the request that the step is about is the one that was handed the tunnel
  have only : ∀ {q : Nat} {y : Request}, c.service.requests[q]? = some y → y.stage.accepted? = some t → q = r :=
    fun other accepted => acceptedOnce handed fresh other accepted mem
  cases effect with
  | quiet history owed stages =>
    rw [history, owed]
    exact stages r x x' mem found found' _ _ due
  | announced other at' now history owed =>
    cases only other (congrArg Stage.accepted? at')
    cases found.symm.trans other
    cases now.symm.trans found'
    rw [at'] at due
    exact ⟨by rw [history, due.1]; rfl, owed.trans due.2⟩
  | watched other at' now history owed =>
    cases only other (congrArg Stage.accepted? at')
    cases found.symm.trans other
    cases now.symm.trans found'
    rw [at'] at due
    exact .inl ⟨history.trans due.1, by rw [owed, due.2]⟩
  | told other at' now history owed =>
    cases only other (congrArg Stage.accepted? at')
    cases found.symm.trans other
    cases now.symm.trans found'
    rw [at'] at due
    exact .inr ⟨by rw [history, due.1]; rfl, owed.trans due.2.1, due.2.2⟩
  | published same closed history owed =>
    rw [same] at found'
    cases found.symm.trans found'
    obtain ⟨-, result, at'⟩ := dueOwed due (by omega)
    rw [at'] at due ⊢
    rcases due with ⟨one, left⟩ | ⟨-, none', -⟩
    · exact .inr ⟨by rw [history, one]; rfl, by omega, closed⟩
    · omega

theorem balancedStep {c c' : Shared} {a : Action} (step : Step c a c') (handed : Handed c) (referred : Referred c)
    (orderly : Orderly c) (fresh : c'.Fresh) (balanced : Balanced c) : Balanced c' := by
  have effect := effectStep step handed referred orderly
  refine ⟨fun r x' t mem found' => ?_, fun t unhanded => ?_⟩
  · by_cases before : ∃ q, (q, t) ∈ c.deliveries
    · obtain ⟨q, earlier⟩ := before
      cases freshSame fresh (deliveryKept step earlier) mem
      obtain ⟨x, found, -⟩ := handed.kept r t earlier
      exact handedDue step handed (freshBefore step fresh) (effect t) earlier found found'
        (balanced.handed r x t earlier found)
    · have none' : ∀ q, (q, t) ∉ c.deliveries := fun q earlier => before ⟨q, earlier⟩
      rcases deliveryCame step mem with old | ⟨-, -, n, x, -, -, now⟩
      · exact absurd old (none' r)
      · cases now.symm.trans found'
        exact unhandedStep (effect t) handed balanced none'
  · exact unhandedStep (effect t) handed balanced fun r earlier => unhanded r (deliveryKept step earlier)

theorem balancedReachable {c : Shared} (reachable : c.Reachable) (fresh : c.Fresh) : Balanced c := by
  have start : Balanced {} := ⟨by simp, fun _ _ => ⟨rfl, rfl⟩⟩
  refine reachableKeeps (P := fun d => d.Fresh → Balanced d) (fun _ => start) ?_ reachable fresh
  intro c c' a reachable step before fresh
  exact balancedStep step (handedReachable reachable) (referredReachable reachable) (orderlyReachable reachable) fresh
    (before (freshBefore step fresh))

theorem owedIdle {t : TunnelId} {l : List Teardown}
    (idle : ∀ d ∈ l, d.tunnel = t → d.phase.working = false) : owedBy t l = 0 := by
  induction l with
  | nil => rfl
  | cons head tail ih =>
    have rest := ih fun d mem => idle d (List.mem_cons_of_mem head mem)
    have none' : owes t head = 0 := by
      unfold owes
      split
      · rename_i same
        have finished := idle head (by simp) same
        cases at' : head.phase <;> simp_all [Phase.working, Phase.unpublished]
      · rfl
    simp [owedBy, rest, none']

theorem owedOpen {c : Shared} (orderly : Orderly c) {t : TunnelId}
    (idle : ∀ d ∈ c.teardowns, d.tunnel = t → d.phase.working = false) (one : c.owed t = 1) :
    c.service.isOpen t = true := by
  have count : handlerCount c.service t = 1 := by simpa [owed, owedIdle idle] using one
  unfold handlerCount at count
  split at count
  · rename_i l known
    cases opened : c.service.isOpen t with
    | true => rfl
    | false =>
      rcases orderly.overtaken t l known ((closedLife known).mp opened) with ⟨empty, -⟩ | ⟨i, d, found, tunnel, busy⟩
      · simp [empty] at count
      · have finished := idle d (List.mem_of_getElem? found) tunnel
        simp [Teardown.untakenWorking busy] at finished
  · contradiction

theorem doneTunnel {stage : Stage} {t : TunnelId} (finished : stage.ended = true) (tunnel : stage.tunnel? = some t) :
    stage = .done (.ok t) := by
  cases stage with
  | done result =>
    cases result with
    | error e => contradiction
    | ok u =>
      cases tunnel
      rfl
  | _ => contradiction

/- What is published about a tunnel made anew is nothing, that it was created, or that
it was created and then closed. It is nothing unless the tunnel was handed to a request;
once that request has returned it was created exactly once, and while no teardown is on
its way it was closed exactly once if it is closed and not at all if it is open. -/
theorem tunnelHistory {c : Shared} (reachable : c.Reachable) (fresh : c.Fresh) (t : TunnelId) :
    (c.history t = [] ∨ c.history t = [.created t] ∨ c.history t = [.created t, .closed t]) ∧
    (c.service.isOpen t = true → .closed t ∉ c.service.published) ∧
    ((∀ r, (r, t) ∉ c.deliveries) → c.history t = []) ∧
    ∀ r x, (r, t) ∈ c.deliveries → c.service.requests[r]? = some x → x.stage.ended = true →
      x.stage = .done (.ok t) ∧ (c.history t).count (.created t) = 1 ∧
      ((∀ d ∈ c.teardowns, d.tunnel = t → d.phase.working = false) →
        (c.history t).count (.closed t) = if c.service.isOpen t then 0 else 1) := by
  have balanced := balancedReachable reachable fresh
  have handed := handedReachable reachable
  have shape : c.history t = [] ∨ c.history t = [.created t] ∨
      c.history t = [.created t, .closed t] ∧ c.service.isOpen t = false := by
    by_cases before : ∃ r, (r, t) ∈ c.deliveries
    · obtain ⟨r, mem⟩ := before
      obtain ⟨x, found, -⟩ := handed.kept r t mem
      exact dueShape (balanced.handed r x t mem found)
    · exact .inl (balanced.unhanded t fun r mem => before ⟨r, mem⟩).1
  refine ⟨shape.imp_right (Or.imp_right And.left), fun opened mem => ?open', ?unhanded, ?returned⟩
  case open' =>
    have heard : .closed t ∈ c.history t := List.mem_filter.mpr ⟨mem, by simp [Event.tunnel]⟩
    rcases shape with none' | one | ⟨-, closed⟩
    · simp [none'] at heard
    · simp [one] at heard
    · simp [opened] at closed
  case unhanded => exact fun unhanded => (balanced.unhanded t unhanded).1
  case returned =>
    intro r x mem found finished
    obtain ⟨y, found', tunnel⟩ := handed.kept r t mem
    cases found.symm.trans found'
    refine ⟨doneTunnel finished tunnel, ?_⟩
    rcases dueEnded (balanced.handed r x t mem found) finished with ⟨one, left⟩ | ⟨both, -, closed⟩
    · refine ⟨by simp [one], fun idle => ?_⟩
      simp [one, owedOpen (orderlyReachable reachable) idle left]
    · exact ⟨by simp [both], fun _ => by simp [both, closed]⟩

theorem tunnelHistoryRivals :
    let c := after (asking desktop 0 ++ asking desktop 1 ++ making 0 0 ++ List.replicate 4 (.advance 0 false) ++
      making 1 1 ++ List.replicate 4 (.advance 1 false) ++ [.ask desktop, .advance 2 false, .advance 2 false] ++
      [.release 2, .release 0] ++ List.replicate 6 (.teardown 0) ++ [.teardown 1])
    ((c.history 0).count (.created 0) = 1 ∧ (c.history 0).count (.closed 0) = 1) ∧
      (c.history 1).count (.created 1) = 1 ∧ (c.history 1).count (.closed 1) = 0 := by
  intro c
  have first := tunnelHistory (c := c) (afterReachable rfl) (by decide) 0
  have second := tunnelHistory (c := c) (afterReachable rfl) (by decide) 1
  obtain ⟨-, one, ended⟩ := first.2.2.2 0 _ (by decide) rfl rfl
  obtain ⟨-, other, open'⟩ := second.2.2.2 1 _ (by decide) rfl rfl
  exact ⟨⟨one, ended (by decide)⟩, other, open' (by decide)⟩

end Shared
end TunnelRelay
