import TunnelRelay.Proofs.Pool.History
import TunnelRelay.Proofs.Pool.Makers
import TunnelRelay.Proofs.Pool.Settling

/-! No tunnel is left behind. A tunnel belongs to the request that it was made for until
that has ended, and then to its transports; whoever gives a transport up closes the tunnel
for all. What follows from an end, a teardown's next step or the end of a tunnel that nobody
refers to any longer, is done at once: when all of that is done, every open tunnel has
somebody who can close it. -/
namespace TunnelRelay
open Service (Request Stage)

namespace Shared

variable {c c' : Shared} {a : Action}

theorem releaseEnabled {q : Nat} {x : Request} {t : TunnelId} (found : c.service.requests[q]? = some x)
    (done : x.stage = .done (.ok t)) (kept : x.released = false) (present : x.gone = false) :
    ∃ c', c.step (.release q) = some c' ∧ c'.service.requests[q]? = some { x with released := true } := by
  refine ⟨Shared.begin { c with service :=
    { c.service with requests := c.service.requests.set q { x with released := true } } } t true, ?_, setSelf found _⟩
  simp [step, Service.release, Service.transport?, Service.stage?, found, done, kept, present]

theorem leaveEnabled {q : Nat} {x : Request} (found : c.service.requests[q]? = some x) (released : x.released = true) :
    ∃ c', c.step (.leave q) = some c' := by
  simp [step, found, released]

def Given (c : Shared) : Prop :=
  ∀ (q : Nat) x t, c.service.requests[q]? = some x → x.stage = .done (.ok t) → x.released = true → c.Closing t

theorem givenStep (reachable : c.Reachable) (step : Step c a c') (given : Given c) : Given c' := by
  intro q x t found finished released
  have still {y : Request} (before : c.service.requests[q]? = some y) (at' : y.stage = .done (.ok t))
      (earlier : y.released = true) : c'.Closing t := by
    obtain ⟨r, z, mem, -⟩ := akinReachable reachable q y t before (by rw [at']; rfl)
    obtain ⟨l, known⟩ := handedLife (handedReachable reachable) mem
    exact closingKept step known (given q y t before at' earlier)
  cases requestCame step found with
  | same before => exact still before finished released
  | asked p => contradiction
  | @moved y _ _ before at' move =>
    obtain ⟨u, done⟩ := (referredReachable reachable).returned q y before released
    exact absurd (at'.symm.trans done) (moveBusy move _)
  | released before at' begun =>
    cases at'.symm.trans finished
    exact .inr ⟨_, _, by rw [begun]; exact List.getElem?_concat_length, rfl, rfl, rfl⟩
  | left before earlier => exact still before finished earlier

theorem givenReachable (reachable : c.Reachable) : Given c :=
  reachableKeeps (by simp [Given]) givenStep reachable

theorem unhandedHeld (reachable : c.Reachable) {t : TunnelId} (unhanded : ∀ r, (r, t) ∉ c.deliveries)
    (held : c.held t = true) :
    t ∈ c.references ∨ ∃ (i : Nat) (d : Teardown), c.teardowns[i]? = some d ∧ d.tunnel = t ∧ d.phase ≠ .ended := by
  simp only [Shared.held, Bool.or_eq_true, List.any_eq_true] at held
  rcases held with ((mem | ⟨⟨k, e⟩, mem, live⟩) | ⟨x, mem, tunnel⟩) | ⟨d, mem, working⟩
  · exact .inl (by simpa using mem)
  · cases eq_of_beq live
    have entry := (Pool.entryMember (keyedReachable reachable)).mpr mem
    obtain ⟨r, x, handed, -⟩ := rootedReachable reachable k t entry
    exact absurd handed (unhanded r)
  · obtain ⟨q, found⟩ := List.mem_iff_getElem?.mp mem
    have stage : x.stage.tunnel? = some t := by
      have refers : ({ x with stage := x.stage } : Request).tunnel? = some t := by simpa using tunnel
      exact stageTunnel refers
    obtain ⟨r, y, handed, -⟩ := akinReachable reachable q x t found stage
    exact absurd handed (unhanded r)
  · obtain ⟨i, found⟩ := List.mem_iff_getElem?.mp mem
    simp only [Bool.and_eq_true, bne_iff_ne, ne_eq, beq_iff_eq] at working
    exact .inr ⟨i, d, found, working.2, working.1.2⟩

end Shared

namespace Gateway

variable {u : Setup} {g g' : Gateway} {action : Action}

theorem settledTeardown (settled : Settled u g) {i : Nat} {d : Teardown} (found : g.shared.teardowns[i]? = some d)
    (known : d.tunnel < g.shared.service.tunnels.length) : d.phase = .ended := by
  by_contra busy
  obtain ⟨c, did⟩ := Shared.teardownEnabled found known busy
  exact settled _ ⟨_, .teardown i, actStep rfl did⟩

theorem settledReferences (sound : Sound u g) (settled : Settled u g) {r : Nat} {t : TunnelId}
    (made : g.tunnel? r = some t) (given : (g.waits r).keeps = false) : t ∉ g.shared.references := by
  intro mem
  have unkept : g.isKept t = false := by
    simp only [isKept, List.any_eq_false, Bool.and_eq_true, beq_iff_eq, not_and]
    intro q _ ⟨_, own⟩
    rw [sound.once q r t own made, given]
    exact nofun
  have lets : g.shared.step (.letGo t) = some { g.shared with references := g.shared.references.erase t } := by
    simp [Shared.step, mem]
  exact settled _ ⟨_, .letGo made given, actStep (by simp [reserved, unkept]) lets⟩

theorem settledHeld (settled : Settled u g) {t : TunnelId} (opened : g.shared.service.isOpen t = true) :
    g.shared.held t = true := by
  by_contra free
  obtain ⟨y, there, -⟩ := Shared.openTunnel opened
  obtain ⟨known, -⟩ := List.getElem?_eq_some_iff.mp there
  have destroys : g.shared.step (.destroy t) = some (g.shared.begin t false) := by simp [Shared.step, free, known]
  exact settled _ ⟨_, .destroy opened, actStep rfl destroys⟩

theorem settledClosing (settled : Settled u g) {t : TunnelId} (known : t < g.shared.service.tunnels.length)
    (closing : g.shared.Closing t) : g.shared.service.isOpen t = false := by
  rcases closing with closed | ⟨i, d, found, rfl, -, flagging⟩
  · exact closed
  · cases flagging.symm.trans (settledTeardown settled found known)

theorem settledGiven (sound : Sound u g) (settled : Settled u g) {q : Nat} {x : Request} {t : TunnelId}
    (found : g.shared.service.requests[q]? = some x) (done : x.stage = .done (.ok t)) (released : x.released = true) :
    g.shared.service.isOpen t = false := by
  obtain ⟨r, y, mem, -⟩ := Shared.akinReachable sound.reachable q x t found (by rw [done]; rfl)
  have known := (Shared.handedReachable sound.reachable).known r t mem
  exact settledClosing settled known (Shared.givenReachable sound.reachable q x t found done released)

def Owned (g : Gateway) (t : TunnelId) : Prop :=
  ∃ r x, g.tunnel? r = some t ∧ g.shared.service.requests[r]? = some x ∧
    (x.stage.ended = false ∨ x.stage = .done (.ok t) ∧ x.released = false)

theorem handedOwned (sound : Sound u g) (settled : Settled u g) {r : Nat} {t : TunnelId}
    (handed : (r, t) ∈ g.shared.deliveries) (opened : g.shared.service.isOpen t = true) : g.Owned t := by
  obtain ⟨x, found, tunnel⟩ := (Shared.handedReachable sound.reachable).kept r t handed
  refine ⟨r, x, sound.handed r t handed, found, ?_⟩
  cases ended : x.stage.ended with
  | false => exact .inl rfl
  | true =>
    have done := Shared.doneTunnel ended tunnel
    refine .inr ⟨done, ?_⟩
    by_contra released
    simp [settledGiven sound settled found done (by simpa using released)] at opened

theorem givenClosed (sound : Sound u g) (settled : Settled u g) {r : Nat} {t : TunnelId}
    (made : g.tunnel? r = some t) (unhanded : (r, t) ∉ g.shared.deliveries) (given : (g.waits r).keeps = false) :
    g.shared.service.isOpen t = false := by
  by_contra opened
  have nobody (q : Nat) : (q, t) ∉ g.shared.deliveries := by
    intro mem
    exact unhanded (sound.once q r t (sound.handed q t mem) made ▸ mem)
  have held := settledHeld settled (by simpa using opened)
  rcases Shared.unhandedHeld sound.reachable nobody held with mem | ⟨i, d, found, rfl, busy⟩
  · exact settledReferences sound settled made given mem
  · exact busy (settledTeardown settled found (soundBound sound made))

theorem settledOwned (sound : Sound u g) (settled : Settled u g) {r : Nat} {t : TunnelId}
    (made : g.tunnel? r = some t) (placed : Placed g r t) (opened : g.shared.service.isOpen t = true) :
    g.Owned t := by
  by_cases handed : (r, t) ∈ g.shared.deliveries
  · exact handedOwned sound settled handed opened
  rcases placed with handed' | waits | ⟨given, -⟩
  · exact absurd handed' handed
  · obtain ⟨x, n, found, at'⟩ := creatingIff.mp waits
    exact ⟨r, x, made, found, .inl (by rw [at']; rfl)⟩
  · simp [givenClosed sound settled made handed given] at opened

theorem settledQuiet (sound : Sound u g) (settled : Settled u g)
    (ended : ∀ x ∈ g.shared.service.requests, x.stage.ended = true) : g.shared.Quiet := by
  refine ⟨ended, fun d mem => ?_⟩
  obtain ⟨i, found⟩ := List.mem_iff_getElem?.mp mem
  obtain ⟨l, life, -⟩ := (Shared.orderlyReachable sound.reachable).reached i d found
  by_cases flagging : d.phase = .flagging
  · rw [flagging]
    rfl
  · rw [settledTeardown settled found (Shared.lifeBound (life flagging))]
    rfl

theorem settledReleased (sound : Sound u g) (settled : Settled u g) {t : TunnelId} {y : Tunnel ProfileKey}
    (there : g.shared.service.tunnels[t]? = some y) (closed : y.life.closed = true) :
    y.life.cancelled = true ∧ y.life.listening = false := by
  have known := Shared.lifeOf there
  rcases (Shared.orderlyReachable sound.reachable).overtaken t y.life known closed with
    ⟨-, done⟩ | ⟨i, d, found, rfl, untaken⟩
  · exact done
  · rw [settledTeardown settled found (Shared.lifeBound known)] at untaken
    contradiction

structure Cleared (g : Gateway) : Prop where
  tunnels : ∀ (t : TunnelId) y, g.shared.service.tunnels[t]? = some y →
    y.life.closed = true ∧ y.life.cancelled = true ∧ y.life.listening = false
  pool : g.shared.service.pool.entries = []

theorem settledCleared (sound : Sound u g) (settled : Settled u g)
    (owned : ∀ t, g.shared.service.isOpen t = true → g.Owned t)
    (gone : ∀ x ∈ g.shared.service.requests, x.stage.ended = true ∧ ∀ t, x.stage = .done (.ok t) → x.released = true) :
    g.Cleared := by
  have closed (t : TunnelId) : g.shared.service.isOpen t = false := by
    by_contra opened
    obtain ⟨r, x, -, found, running | ⟨done, kept⟩⟩ := owned t (by simpa using opened)
    · simp [(gone x (List.mem_of_getElem? found)).1] at running
    · simp [(gone x (List.mem_of_getElem? found)).2 t done] at kept
  refine ⟨fun t y there => ?tunnels, ?pool⟩
  case tunnels =>
    have shut : y.life.closed = true := (Shared.closedLife (Shared.lifeOf there)).mp (closed t)
    exact ⟨shut, settledReleased sound settled there shut⟩
  case pool =>
    have quiet := settledQuiet sound settled fun x mem => (gone x mem).1
    rw [List.eq_nil_iff_forall_not_mem]
    rintro ⟨k, e⟩ mem
    have entry := (Pool.entryMember (Shared.keyedReachable sound.reachable)).mpr mem
    obtain ⟨t, -, opened⟩ := Shared.quietEntry sound.reachable quiet entry
    simp [closed t] at opened

structure Untouched (g g' : Gateway) : Prop where
  pool : g'.shared.service.pool = g.shared.service.pool
  tunnels : g'.shared.service.tunnels = g.shared.service.tunnels
  published : g'.shared.service.published = g.shared.service.published

theorem Untouched.trans {g'' : Gateway} (first : Untouched g g') (second : Untouched g' g'') : Untouched g g'' :=
  ⟨second.pool.trans first.pool, second.tunnels.trans first.tunnels, second.published.trans first.published⟩

/- A teardown that has found, or will find, its tunnel closed by another. -/
def Late (i : Nat) (t : TunnelId) (g : Gateway) : Prop :=
  ∃ d l, g.shared.teardowns[i]? = some d ∧ d.tunnel = t ∧ (d.phase = .flagging ∨ d.phase = .ended) ∧
    g.shared.service.life? t = some l ∧ l.closed = true

theorem lateStep (step : Step u g action g') {i : Nat} {t : TunnelId} (late : Late i t g) : Late i t g' := by
  cases stepShares step with
  | nothing same =>
    rw [Late, same]
    exact late
  | one a did =>
    obtain ⟨d, l, found, rfl, idle, known, closed⟩ := late
    have moved := Shared.stepCases did
    obtain ⟨l', known', grows⟩ := Shared.lifeGrows moved known
    rcases Shared.teardownGoes moved found with still | ⟨phase, now, goes⟩
    · exact ⟨d, l', still, rfl, idle, known', grows.closed closed⟩
    · refine ⟨_, l', now, rfl, .inr ?_, known', grows.closed closed⟩
      rcases idle with flagging | ended
      · rw [flagging] at goes
        cases goes with
        | late => rfl
        | tear tears before =>
          cases tears with
          | flag opened =>
            cases known.symm.trans before
            simp [closed] at opened
      · exact absurd ended (Shared.goesBusy goes)

theorem lateRun {later : List Action} (ran : run u g later = some g') {i : Nat} {t : TunnelId} (late : Late i t g) :
    Late i t g' := by
  induction later using List.reverseRecOn generalizing g' with
  | nil =>
    cases ran
    exact late
  | append_singleton past action ih =>
    obtain ⟨d, before, moved⟩ := runLast ran
    exact lateStep (stepCases moved) (ih before)

theorem lateUntouched {i : Nat} {t : TunnelId} (late : Late i t g)
    (moved : step u g (.act (.teardown i)) = some g') : Untouched g g' := by
  obtain ⟨d, l, found, rfl, idle, known, closed⟩ := late
  obtain ⟨y, there, rfl⟩ := Option.map_eq_some_iff.mp known
  obtain ⟨shared, did, rfl⟩ := shareSome moved
  simp only [Shared.step, Shared.stepTeardown, found, bind, Option.bind_some, Option.bind_eq_some_iff] at did
  obtain ⟨⟨s, phase⟩, worked, last⟩ := did
  cases Option.some.inj last
  rcases idle with flagging | ended
  · simp only [Shared.proceed, there, flagging, Lifecycle.flagClosed closed, bind, Option.bind_some] at worked
    cases worked
    exact ⟨rfl, rfl, rfl⟩
  · simp [Shared.proceed, there, ended] at worked

theorem endsUntouched {c : Shared} {q : Nat} {t : TunnelId} {a : Shared.Action}
    (transport : g.shared.service.transport? q = some t) (own : a = .release q ∨ a = .dispose t)
    (did : g.shared.step a = some c) :
    Untouched g { g with shared := c } ∧ c.teardowns = g.shared.teardowns ++ [{ tunnel := t, borrowed := true }] := by
  rcases own with rfl | rfl
  · simp only [Shared.step, Service.release, transport, bind, Option.bind_eq_some_iff] at did
    obtain ⟨x, -, ⟨s, t'⟩, ⟨x', -, t'', same, released⟩, last⟩ := did
    cases Option.some.inj same
    split at released <;> cases released
    split at last <;> cases last
    exact ⟨⟨rfl, rfl, rfl⟩, rfl⟩
  · simp only [Shared.step] at did
    split at did <;> cases did
    exact ⟨⟨rfl, rfl, rfl⟩, rfl⟩

theorem leavesUntouched {q : Nat} (moved : step u g (.act (.leave q)) = some g') : Untouched g g' := by
  obtain ⟨shared, did, rfl⟩ := shareSome moved
  simp only [Shared.step, bind, Option.bind_eq_some_iff] at did
  obtain ⟨x, -, last⟩ := did
  split at last <;> cases last
  exact ⟨rfl, rfl, rfl⟩

structure Harmless (u : Setup) (g : Gateway) (q : Nat) (t : TunnelId) : Prop where
  ends : ∀ a g', a = .release q ∨ a = .dispose t → step u g (.act a) = some g' → Untouched g g' ∧
    ∀ later g'' g₃, run u g' later = some g'' →
      step u g'' (.act (.teardown g.shared.teardowns.length)) = some g₃ → Untouched g'' g₃
  leaves : ∀ g', step u g (.act (.leave q)) = some g' → Untouched g g'
  whole : (∃ x, g.shared.service.requests[q]? = some x ∧ x.released = false) →
    ∃ g', run u g [.act (.release q), .act (.teardown g.shared.teardowns.length), .act (.leave q)] = some g' ∧
      Untouched g g'

theorem harmless (sound : Sound u g) {q : Nat} {t : TunnelId} (transport : g.shared.service.transport? q = some t)
    (closed : g.shared.service.isOpen t = false) : Harmless u g q t := by
  have reachable := sound.reachable
  obtain ⟨x, found, done⟩ := Shared.transportRequest transport
  obtain ⟨r, -, mem, -⟩ := Shared.akinReachable reachable q x t found (by rw [done]; rfl)
  obtain ⟨l, life⟩ := Shared.handedLife (Shared.handedReachable reachable) mem
  have late {a : Shared.Action} {c : Shared} (own : a = .release q ∨ a = .dispose t) (did : g.shared.step a = some c) :
      Untouched g { g with shared := c } ∧ Late g.shared.teardowns.length t { g with shared := c } := by
    obtain ⟨same, begun⟩ := endsUntouched transport own did
    refine ⟨same, { tunnel := t, borrowed := true }, l, by simp [begun], rfl, .inl rfl, ?_, ?_⟩
    · rw [Service.life?, same.tunnels]
      exact life
    · exact (Shared.closedLife life).mp closed
  refine ⟨fun a g' own moved => ?ends, fun g' moved => leavesUntouched moved, ?whole⟩
  case ends =>
    obtain ⟨c, did, rfl⟩ := shareSome (actMoved moved)
    obtain ⟨same, begun⟩ := late own did
    exact ⟨same, fun later g'' g₃ ran torn => lateUntouched (lateRun ran begun) torn⟩
  case whole =>
    rintro ⟨y, asked, kept⟩
    cases found.symm.trans asked
    have present : x.gone = false := by
      by_contra gone
      simp [(Shared.referredReachable reachable).gone q x found (by simpa using gone)] at kept
    obtain ⟨c, releases, asked'⟩ := Shared.releaseEnabled found done kept present
    obtain ⟨same, begun⟩ := late (.inl rfl) releases
    have torn : c.teardowns[g.shared.teardowns.length]? = some { tunnel := t, borrowed := true } := by
      simp [(endsUntouched transport (.inl rfl) releases).2]
    obtain ⟨d, tears⟩ := Shared.teardownEnabled torn (by rw [same.tunnels]; exact Shared.lifeBound life) (by simp)
    obtain ⟨y, asked'', grows⟩ := Shared.requestGrows (Shared.stepCases tears) asked'
    obtain ⟨e, leaves⟩ := Shared.leaveEnabled asked'' (grows.released rfl)
    have first := actStep (u := u) (g := g) rfl releases
    have second := actStep (u := u) (g := { g with shared := c }) rfl tears
    have third := actStep (u := u) (g := { g with shared := d }) rfl leaves
    refine ⟨_, ?_, same.trans ((lateUntouched begun second).trans (leavesUntouched third))⟩
    simp only [run, List.foldlM_cons, List.foldlM_nil, first, bind, Option.bind_some, second, third, pure]

def AtRest (g : Gateway) : Prop :=
  (∀ d ∈ g.shared.teardowns, d.phase = .ended) ∧
  (∀ t ∈ g.shared.references, ∃ r < g.shared.service.requests.length,
    g.tunnel? r = some t ∧ (g.waits r).keeps = true) ∧
  ∀ t < g.shared.service.tunnels.length, g.shared.service.isOpen t = true → g.shared.held t = true

instance (g : Gateway) : Decidable g.AtRest := by
  unfold AtRest
  infer_instance

theorem restSettled (sound : Sound u g) (rest : g.AtRest) : Settled u g := by
  obtain ⟨torn, kept, held⟩ := rest
  rintro g' ⟨action, due, moved⟩
  obtain ⟨a, same⟩ : ∃ a, action = .act a := by cases due <;> exact ⟨_, rfl⟩
  subst same
  obtain ⟨shared, did, -⟩ := shareSome (actMoved moved)
  cases due with
  | teardown i =>
    simp only [Shared.step, Shared.stepTeardown, bind, Option.bind_eq_some_iff] at did
    obtain ⟨d, found, ⟨s, phase⟩, worked, -⟩ := did
    simp [Shared.proceed, torn d (List.mem_of_getElem? found)] at worked
  | @letGo r t made given =>
    simp only [Shared.step] at did
    split at did <;> try contradiction
    rename_i among
    obtain ⟨q, -, own, keeps⟩ := kept t (by simpa using among)
    simp [sound.once q r t own made, given] at keeps
  | @destroy t opened =>
    obtain ⟨y, there, -⟩ := Shared.openTunnel opened
    simp [Shared.step, held t (List.getElem?_eq_some_iff.mp there).1 opened] at did

def creating (p : Profile) (r : Nat) : List Action :=
  .act (.ask p) :: List.replicate 3 (.act (.advance r false)) ++
    [.begin r (fun _ _ => .ok ()) ⟨fun _ e => .ok e, fun drawing _ => drawing, fun _ => false⟩]

def returning (r : Nat) : List Action :=
  [.look r { probe := { connect := some (.ok ()) } }, .conclude r] ++ List.replicate 4 (.act (.advance r false))

/- In every run. Disposals, drops and the ends of abandoned creations can always be brought to their end. Once
they are there, every open tunnel belongs to a request on its way or to a transport that nobody gave up, and
every tunnel one of whose transports was given up is closed; with no such request and no such transport
nothing is left. And to give up a transport of a closed tunnel changes no tunnel and not the pool. -/
theorem noTunnelOrphaned {actions : List Action} (ran : run u {} actions = some g) :
    (∃ g', Relation.ReflTransGen (Finishing u) g g' ∧ Settled u g') ∧
    (Settled u g →
      (∀ t, g.shared.service.isOpen t = true → g.Owned t) ∧
      (∀ (q : Nat) x t, g.shared.service.requests[q]? = some x → x.stage = .done (.ok t) → x.released = true →
        g.shared.service.isOpen t = false) ∧
      ((∀ x ∈ g.shared.service.requests,
        x.stage.ended = true ∧ ∀ t, x.stage = .done (.ok t) → x.released = true) → g.Cleared)) ∧
    ∀ q t, g.shared.service.transport? q = some t → g.shared.service.isOpen t = false → Harmless u g q t := by
  have sound := soundRun ran
  refine ⟨settles u g, fun settled => ?settled, fun q t transport closed => harmless sound transport closed⟩
  have owned : ∀ t, g.shared.service.isOpen t = true → g.Owned t := by
    intro t opened
    obtain ⟨y, there, -⟩ := Shared.openTunnel opened
    obtain ⟨r, made⟩ := madeRun ran t (List.getElem?_eq_some_iff.mp there).1
    exact settledOwned sound settled made (placedRun ran r t made) opened
  exact ⟨owned, fun q x t found done released => settledGiven sound settled found done released,
    settledCleared sound settled owned⟩

theorem noTunnelOrphanedShared :
    let u : Setup := { settings := { ports := ⟨50000, 50002⟩ }, limits := fun _ => .ofSecs 10 }
    let past := creating Shared.shell 0 ++ returning 0 ++ [.act (.ask Shared.shell)] ++
      List.replicate 2 (.act (.advance 1 false)) ++ [.act (.release 0)] ++ List.replicate 6 (.act (.teardown 0)) ++
      creating Shared.shell 2 ++ returning 2 ++ creating Shared.desktop 3 ++
      [.leave 3, .conclude 3, .act (.letGo 2), .act (.destroy 2)] ++ List.replicate 4 (.act (.teardown 1))
    let later := [.act (.release 1), .act (.teardown 2), .act (.release 2)] ++ List.replicate 6 (.act (.teardown 3))
    ∃ g g', run u {} past = some g ∧ run u {} (past ++ later) = some g' ∧
      g.shared.service.pool.entries = [(Shared.shell.key, .live 1)] ∧ g.Owned 1 ∧
      g.shared.service.transport? 1 = some 0 ∧ g.shared.service.isOpen 0 = false ∧ Harmless u g 1 0 ∧ g'.Cleared := by
  intro u past later
  have first : (run u {} past).any (fun g => g.AtRest ∧ g.shared.service.isOpen 1 ∧ ¬ g.shared.service.isOpen 0 ∧
      g.shared.service.transport? 1 = some 0 ∧
      g.shared.service.pool.entries = [(Shared.shell.key, .live 1)]) = true := by decide +kernel
  have last : (run u {} (past ++ later)).any (fun g => g.AtRest ∧
      ∀ x ∈ g.shared.service.requests, x.stage.ended ∧ (x.stage.tunnel? = none ∨ x.released)) = true := by
    decide +kernel
  simp only [Option.any_eq_true, decide_eq_true_eq] at first last
  obtain ⟨g, ran, rest, opened, closed, transport, pooled⟩ := first
  obtain ⟨g', ran', rest', gone⟩ := last
  have closed' : g.shared.service.isOpen 0 = false := by simpa using closed
  obtain ⟨-, settled, harmless⟩ := noTunnelOrphaned ran
  obtain ⟨-, settled', -⟩ := noTunnelOrphaned ran'
  have owned := (settled (restSettled (soundRun ran) rest)).1
  have cleared := (settled' (restSettled (soundRun ran') rest')).2.2
  refine ⟨g, g', ran, ran', pooled, owned 1 opened, transport, closed', harmless 1 0 transport closed', cleared ?_⟩
  intro x mem
  obtain ⟨ended, given⟩ := gone x mem
  refine ⟨ended, fun t done => ?_⟩
  simpa [done, Service.Stage.tunnel?] using given

end Gateway
end TunnelRelay
