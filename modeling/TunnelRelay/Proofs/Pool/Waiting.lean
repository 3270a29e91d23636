import TunnelRelay.Proofs.Pool.Growth
import TunnelRelay.Proofs.Pool.Making

/-! A request that waits for the tunnel it has made. Whatever ends the wait, an error is
told only after the endpoint was let go. For a connection that never comes there are two
timers, that of the connection and that of the request; whichever is first, the request
fails with the same reason and leaves the same behind. -/
namespace TunnelRelay
namespace Service

section
variable {s : Service} {x y : Tunnel ProfileKey} {e : Endpoint} {c c' : Creation}

theorem outcomeStage {t : TunnelId} {m : Making} (tunnel : m.tunnel = some t) {result : Except Failure TunnelId}
    (told : m.outcome = some result) :
    (∃ e, m.creation.stage = .ready e ∧ result = .ok t) ∨
      ∃ reason, m.creation.stage = .failed reason ∧ result = .error reason := by
  obtain ⟨⟨targets, asked, connects, made, givenUp, stage⟩, tunnel'⟩ := m
  cases tunnel
  cases stage <;> simp_all [Making.outcome, Creation.result, Creation.Stage.result, eq_comm]

theorem letGo (ended : (∃ reason, (made s x c).2.outcome = some (.error reason)) ∨ c.stage = .dropped) :
    c.stage.held = none := by
  rcases ended with ⟨reason, told⟩ | dropped
  · rcases outcomeStage rfl told with ⟨e, -, ⟨⟩⟩ | ⟨reason, failed, -⟩
    rw [show c.stage = _ from failed]
    rfl
  · rw [dropped]
    rfl

theorem dropLetsGo (c : Creation) (limit : Duration) (unready : ∀ e, c.stage ≠ .ready e) :
    (c.after limit .drop).stage.held = none := by
  obtain ⟨targets, asked, connects, made, givenUp, stage⟩ := c
  cases stage <;> first | rfl | exact absurd rfl (unready _)

/- Where a wait stands: an error is told only when the endpoint is free, and as long as nothing is
told the tunnel is not ready. -/
structure Waits (e : Endpoint) (c : Creation) (x : Tunnel ProfileKey)
    (told : Option (Except Failure TunnelId)) : Prop where
  fits : Fits e c x
  untold : told = none → ∀ e, c.stage ≠ .ready e
  failed : ∀ reason, told = some (.error reason) → c.stage.held = none

def Look.hangs (look : Look) : Prop :=
  look.cancelled = false ∧ look.probe.cancelled = false ∧ look.probe.connect = none

inductive Pending (limit : Duration) : Creation.Stage → Prop where
  | bound (e : Endpoint) : Pending limit (.bound e)
  | probing (e : Endpoint) : Pending limit (.probing e)
  | closing : Pending limit (.closing (.timeout limit))

theorem pendingPoll {limit : Duration} (pending : Pending limit c.stage) {sight : Creation.Sight}
    (running : sight.cancelled = false) (hanging : sight.connect = none) :
    Pending limit (c.poll limit sight).stage ∧
      (sight.due = true → (c.poll limit sight).stage = .closing (.timeout limit)) := by
  obtain ⟨targets, asked, connects, made, givenUp, stage⟩ := c
  have event : sight.event = if sight.due then some .timedOut else none := by
    simp [Creation.Sight.event, hanging, running]
  simp only [Creation.poll, running, Bool.and_false, Bool.false_eq_true, if_false, event]
  cases pending <;> cases sight.due <;> exact ⟨by constructor, by first | exact fun _ => rfl | simp⟩

theorem pendingEnded {limit : Duration} (pending : Pending limit c.stage) :
    Pending limit (c.after limit .loopEnded).stage ∨ (c.after limit .loopEnded).stage = .failed (.timeout limit) := by
  obtain ⟨targets, asked, connects, made, givenUp, stage⟩ := c
  cases pending with
  | bound e => exact .inl (.bound e)
  | probing e => exact .inl (.probing e)
  | closing => exact .inr rfl

theorem pendingUnfailed {limit : Duration} {stage : Creation.Stage} (pending : Pending limit stage)
    (reason : Failure) : stage ≠ .failed reason := by
  cases pending <;> exact nofun

theorem closingEnded {limit : Duration} {reason : Failure} (closing : c.stage = .closing reason) :
    (c.after limit .loopEnded).stage = .failed reason := by
  simp [Creation.after, closing, Creation.Stage.after]

theorem pendingUntold {limit : Duration} (pending : Pending limit c.stage) : (made s x c).2.outcome = none := by
  obtain ⟨targets, asked, connects, made, givenUp, stage⟩ := c
  cases pending <;> rfl

theorem waitsLook (limit : Duration) (look : Look) (waits : Waits e c x none) :
    ∃ c' y told, awaitMaking (made s x c).1 limit (made s x c).2 look = ((made s y c').1, (made s y c').2, told) ∧
      Waits e c' y told ∧ (look.hangs → Pending limit c.stage →
        told = none ∧ look.due = false ∧ Pending limit c'.stage ∧
            (look.probe.due = true → c'.stage = .closing (.timeout limit)) ∨
          told = some (.error (.timeout limit))) := by
  cases gone : look.cancelled with
  | true =>
    obtain ⟨y, dropped, goes⟩ := goesDrop (s := s) limit waits.fits
    have free := dropLetsGo c limit (waits.untold rfl)
    refine ⟨_, y, some (.error .cancelled), ?_, ⟨goes.fits, by simp, fun _ _ => free⟩, fun hangs => ?_⟩
    · simp [awaitMaking, gone, Sight.outcome, dropped]
    · cases gone.symm.trans hangs.1
  | false =>
    obtain ⟨c', y, polled, goes, came⟩ := goesPoll (s := s) limit look.probe waits.fits
    have hung (hangs : look.hangs) (pending : Pending limit c.stage) :
        Pending limit c'.stage ∧ (look.probe.due = true → c'.stage = .closing (.timeout limit)) ∨
          c'.stage = .failed (.timeout limit) := by
      have still := pendingPoll pending hangs.2.1 hangs.2.2
      rcases came with rfl | rfl
      · exact .inl still
      · rcases pendingEnded still.1 with kept | failed
        · refine .inl ⟨kept, fun due => ?_⟩
          exact absurd (closingEnded (still.2 due)) (pendingUnfailed kept _)
        · exact .inr failed
    cases told : (made s y c').2.outcome with
    | some result =>
      refine ⟨c', y, some result, by simp [awaitMaking, gone, Sight.outcome, polled, told],
        ⟨goes.fits, by simp, ?_⟩, fun hangs pending => .inr ?_⟩
      · rintro reason ⟨⟩
        rcases outcomeStage rfl told with ⟨e, -, contra⟩ | ⟨reason, failed, -⟩
        · cases contra
        · have at' : c'.stage = .failed reason := failed
          rw [at']
          rfl
      · rcases hung hangs pending with still | failed
        · cases told.symm.trans (pendingUntold still.1)
        · rcases outcomeStage rfl told with ⟨e, at', -⟩ | ⟨reason, at', rfl⟩
          · cases failed.symm.trans at'
          · cases failed.symm.trans at'
            rfl
    | none =>
      have unready : ∀ e, c'.stage ≠ .ready e := by
        intro e at'
        simp [made, Making.outcome, Creation.result, Creation.Stage.result, at'] at told
      cases due : look.due with
      | false =>
        refine ⟨c', y, none, by simp [awaitMaking, gone, Sight.outcome, polled, told, due],
          ⟨goes.fits, fun _ => unready, by simp⟩, fun hangs pending => .inl ⟨rfl, rfl, ?_⟩⟩
        rcases hung hangs pending with still | failed
        · exact still
        · simp [made, Making.outcome, Creation.result, Creation.Stage.result, failed] at told
      | true =>
        obtain ⟨z, dropped, goes'⟩ := goesDrop (s := s) limit goes.fits
        refine ⟨_, z, some (.error (.timeout limit)), ?_, ⟨goes'.fits, by simp, fun _ _ => dropLetsGo c' limit unready⟩,
          fun _ _ => .inr rfl⟩
        simp [awaitMaking, gone, Sight.outcome, polled, told, due, dropped]

def WaitStep.hangs : WaitStep → Prop
  | .look seen => seen.hangs
  | .outside _ => True

def WaitStep.due : WaitStep → Bool
  | .look seen => seen.due
  | .outside _ => false

structure Hangs (limit : Duration) (c : Creation) (told : Option (Except Failure TunnelId)) : Prop where
  pending : told = none → Pending limit c.stage
  expired : ∀ result, told = some result → result = .error (.timeout limit)

theorem waitsStep (limit : Duration) (step : WaitStep) {told : Option (Except Failure TunnelId)}
    (waits : Waits e c x told) :
    ∃ c' y told', waitStep limit (made s x c, told) step = (made s y c', told') ∧ Waits e c' y told' ∧
      (step.hangs → Hangs limit c told → Hangs limit c' told' ∧ (told' = none → told = none ∧ step.due = false)) := by
  cases step with
  | outside h =>
    obtain ⟨y, happened, fits, -⟩ := fitsHappen (s := s) waits.fits h
    exact ⟨c, y, told, by rw [waitStep, happened]; rfl, ⟨fits, waits.untold, waits.failed⟩,
      fun _ hangs => ⟨hangs, fun none' => ⟨none', rfl⟩⟩⟩
  | look look =>
    cases told with
    | some result => exact ⟨c, x, some result, rfl, waits, fun _ hangs => ⟨hangs, by simp⟩⟩
    | none =>
      obtain ⟨c', y, told, looked, waits', hung⟩ := waitsLook (s := s) limit look waits
      refine ⟨c', y, told, by simp only [waitStep, looked], waits', fun quiet hangs => ?_⟩
      rcases hung quiet (hangs.pending rfl) with ⟨rfl, undue, pending, -⟩ | rfl
      · exact ⟨⟨fun _ => pending, by simp⟩, fun _ => ⟨rfl, undue⟩⟩
      · exact ⟨⟨by simp, fun _ same => (Option.some.inj same).symm⟩, by simp⟩

theorem waitsSteps (limit : Duration) (steps : List WaitStep) {told : Option (Except Failure TunnelId)}
    (waits : Waits e c x told) :
    ∃ c' y told', steps.foldl (waitStep limit) (made s x c, told) = (made s y c', told') ∧ Waits e c' y told' ∧
      ((∀ step ∈ steps, step.hangs) → Hangs limit c told →
        Hangs limit c' told' ∧ (told' = none → told = none ∧ ∀ step ∈ steps, step.due = false)) := by
  induction steps generalizing c x told with
  | nil => exact ⟨c, x, told, rfl, waits, fun _ hangs => ⟨hangs, fun none' => ⟨none', by simp⟩⟩⟩
  | cons step rest ih =>
    obtain ⟨d, z, middle, first, waits', hung⟩ := waitsStep (s := s) limit step waits
    obtain ⟨c', y, told', later, waits'', hung'⟩ := ih waits'
    refine ⟨c', y, told', by rw [List.foldl_cons, first]; exact later, waits'', fun quiet hangs => ?_⟩
    obtain ⟨hangs', undue⟩ := hung (quiet step (by simp)) hangs
    obtain ⟨hangs'', undue'⟩ := hung' (fun step mem => quiet step (List.mem_cons_of_mem _ mem)) hangs'
    refine ⟨hangs'', fun none' => ?_⟩
    obtain ⟨untold, rest'⟩ := undue' none'
    obtain ⟨untold', first'⟩ := undue untold
    exact ⟨untold', List.forall_mem_cons.mpr ⟨first', rest'⟩⟩

theorem closingPoll {limit : Duration} {reason : Failure} (closing : c.stage = .closing reason)
    (sight : Creation.Sight) : c.poll limit sight = c := by
  obtain ⟨targets, asked, connects, made, givenUp, stage⟩ := c
  cases closing
  unfold Creation.poll
  split
  · rfl
  · dsimp only
    split
    · rfl
    · rename_i event came
      cases event with
      | loopEnded | drop =>
        unfold Creation.Sight.event at came
        repeat' split at came
        all_goals cases came
      | begun | connected | refused | timedOut | cancelled => rfl

theorem turnReleased (released : x.life.listening = false) : (turn x).loopEnded = true := by
  have polled (y : Tunnel ProfileKey) (same : y.life = x.life) : y.poll.loopEnded = true := by
    unfold Tunnel.poll
    split
    · assumption
    · simp [same, released]
  unfold turn
  -- One poll is enough, and there is one at least.
  cases x.incoming.length with
  | zero => exact polled x rfl
  | succ n =>
    unfold Tunnel.pollAll
    split
    · exact polled x rfl
    · have ended := Tunnel.pollAllKeeps (P := fun y => y.life = x.life ∧ y.loopEnded = true)
        (fun y before => ⟨(Tunnel.pollSame y).life.trans before.1, polled y before.1⟩) n
        ⟨(Tunnel.pollSame x).life, polled x rfl⟩
      exact ended.2

theorem loopedEnded (released : x.life.listening = false) : (looped x).loopEnded = true := by
  have ended := turnReleased released
  rw [looped, if_pos ended]
  exact ended

theorem lookEnded {limit : Duration} {reason : Failure} (closing : c.stage = .closing reason)
    (ended : x.loopEnded = true) {look : Look} (running : look.cancelled = false) :
    (awaitMaking (made s x c).1 limit (made s x c).2 look).2.2 = some (.error reason) := by
  have idle (c' : Creation) : (s.grown x).follow ⟨c, some s.tunnels.length⟩ c' = made s x c' := by
    simp [follow, closing, Creation.Stage.held, made]
  have idled : (s.grown x).loopEnded s.tunnels.length = true := grownEnded.trans ended
  have failed : (c.after limit .loopEnded).stage = .failed reason := closingEnded closing
  simp only [made] at idle
  simp [awaitMaking, running, pollMaking, made, closingPoll closing, idle, idled, Making.outcome, Creation.result, failed,
    Creation.Stage.result, Sight.outcome]

def expiry (first second : Look) : List WaitStep := [.look first, .outside .loop, .look second]

theorem timerEnds {limit : Duration} {told : Option (Except Failure TunnelId)} (waits : Waits e c x told)
    (hangs : Hangs limit c told) {first second : Look} (quiet : first.hangs) (quiet' : second.hangs)
    (due : first.probe.due = true) :
    ((expiry first second).foldl (waitStep limit) (made s x c, told)).2 = some (.error (.timeout limit)) := by
  simp only [expiry, List.foldl_cons, List.foldl_nil]
  cases told with
  | some result =>
    rw [hangs.expired result rfl]
    rfl
  | none =>
    obtain ⟨c', y, told, looked, waits', hung⟩ := waitsLook (s := s) limit first waits
    simp only [waitStep, looked]
    rcases hung quiet (hangs.pending rfl) with ⟨rfl, -, -, closing⟩ | rfl
    · have closing' := closing due
      have released : y.life.listening = false := by
        rw [waits'.fits.together, waits'.fits.closed (by rw [closing']; rfl)]
        rfl
      have loop : happen (made s y c').1 (made s y c').2 .loop = s.grown (looped y) := grownLoop waits'.fits.unwatched
      rw [loop]
      exact lookEnded closing' (loopedEnded released) quiet'.1
    · rfl

end

structure Refused (s s' : Service) (r : Nat) (k : ProfileKey) (reason : Failure) : Prop where
  answer : s'.refusal? r = some (.ofFailure reason)
  unmarked : s'.pool.entryAt? k = none
  others : ∀ k' ≠ k, s'.pool.entryAt? k' = s.pool.entryAt? k'
  published : s'.published = s.published
  inUse : s'.inUse = s.inUse

structure Beside (s s' : Service) : Prop where
  pool : s'.pool = s.pool
  requests : s'.requests = s.requests
  published : s'.published = s.published

theorem createdFails {s s' : Service} (beside : Beside s s') (free : s'.inUse = s.inUse) {r n : Nat} {q : Request}
    (found : s.requests[r]? = some q) (waiting : q.stage = .creating n)
    (marked : s.pool.entryAt? q.profile.key = some (.pending n)) (reason : Failure) :
    ∃ s'', s'.created r (.error reason) = some s'' ∧ Refused s s'' r q.profile.key reason := by
  have found' : s'.requests[r]? = some q := by rw [beside.requests, found]
  refine ⟨Shared.staged { s' with pool := s'.pool.abandon q.profile.key n } r q (.done (.error reason)), ?_, ?_⟩
  · simp only [created, found', bind, Option.bind_some, waiting]
    rw [Shared.setStageFound (by exact found')]
  · have gone (k : ProfileKey) := Pool.entryAbandon s'.pool q.profile.key k n
    refine ⟨?_, ?_, fun k' other => ?_, beside.published, free⟩
    · have known : r < s'.requests.length := (List.getElem?_eq_some_iff.mp found').1
      simp [refusal?, stage?, Shared.staged, known]
    · simpa [Shared.staged, beside.pool, marked] using gone q.profile.key
    · simpa [Shared.staged, other, beside.pool] using gone k'

section
variable (s : Service) (settings : ListenSettings) (target : Locator → UInt16 → Except Failure Unit) (p : Profile)
  (around : Surroundings Endpoint) (limit : Duration)

theorem failedSteps {c : Creation} {reason : Failure} (failed : c.stage = .failed reason) (steps : List WaitStep)
    (told : Option (Except Failure TunnelId)) :
    (steps.foldl (waitStep limit) ((s, ⟨c, none⟩), told)).1 = (s, ⟨c, none⟩) := by
  have polled (sight : Creation.Sight) : pollMaking s limit ⟨c, none⟩ sight = (s, ⟨c, none⟩) :=
    failedTurn limit failed (.poll sight)
  have dropped : dropMaking s limit ⟨c, none⟩ = (s, ⟨c, none⟩) := failedTurn limit failed .drop
  have still (step : WaitStep) (told : Option (Except Failure TunnelId)) :
      (waitStep limit ((s, ⟨c, none⟩), told) step).1 = (s, ⟨c, none⟩) := by
    cases step with
    | outside h => cases h <;> rfl
    | look look =>
      cases told with
      | some result => rfl
      | none =>
        simp only [waitStep, awaitMaking, polled, dropped, ite_self]
        split <;> rfl
  induction steps generalizing told with
  | nil => rfl
  | cons step rest ih =>
    have same : waitStep limit ((s, ⟨c, none⟩), told) step = ((s, ⟨c, none⟩), _) := Prod.ext (still step told) rfl
    rw [List.foldl_cons, same]
    exact ih _

theorem waitsStart (e : Endpoint) : Waits e (boundCreation settings p around e) (listeningTunnel settings p e) none :=
  ⟨fitsStart settings p around e, (fun _ _ at' => nomatch at'), nofun⟩

theorem hangsStart (e : Endpoint) : Hangs limit (boundCreation settings p around e) none :=
  ⟨fun _ => .bound e, nofun⟩

theorem waitFails (steps : List WaitStep) {reason : Failure}
    (told : (steps.foldl (waitStep limit) (s.startMaking settings target p around, none)).2 = some (.error reason)) :
    let w := (steps.foldl (waitStep limit) (s.startMaking settings target p around, none)).1
    Restored s w ∧ Beside s w.1 := by
  intro w
  have barren (asked : List Endpoint) (reason : Failure)
      (start : s.startMaking settings target p around = (s, ⟨failedCreation p asked reason, none⟩)) :
      Restored s w ∧ Beside s w.1 := by
    have stays : w = (s, ⟨failedCreation p asked reason, none⟩) := by
      simp only [w, start]
      exact failedSteps s limit rfl steps none
    rw [stays]
    exact ⟨⟨rfl, nofun⟩, rfl, rfl, rfl⟩
  cases admitted : target p.instanceLocator p.port with
  | error reason => exact barren [] reason (startRefused admitted)
  | ok =>
    cases bound : (Creation.bindFor settings p around).outcome with
    | error reason => exact barren _ reason (startUnbound admitted bound)
    | ok e =>
      obtain ⟨c, x, told', goes, waits, -⟩ := waitsSteps (s := s) limit steps (waitsStart settings p around e)
      simp only [w, startBound admitted bound, goes] at told ⊢
      exact ⟨fitsRestored waits.fits (waits.fits.closed (waits.failed reason told)), rfl, rfl, rfl⟩

theorem waitTimesOut {e : Endpoint} (admitted : target p.instanceLocator p.port = .ok ())
    (bound : (Creation.bindFor settings p around).outcome = .ok e) (steps : List WaitStep)
    (quiet : ∀ step ∈ steps, step.hangs) :
    let begun := (s.startMaking settings target p around, none)
    let told := (steps.foldl (waitStep limit) begun).2
    (∀ result, told = some result → result = .error (.timeout limit)) ∧
      ((∃ step ∈ steps, step.due = true) → told = some (.error (.timeout limit))) ∧
      ∀ first second : Look, first.hangs → second.hangs → first.probe.due = true →
        ((steps ++ expiry first second).foldl (waitStep limit) begun).2 = some (.error (.timeout limit)) := by
  intro begun told
  obtain ⟨c, x, told', goes, waits, hung⟩ := waitsSteps (s := s) limit steps (waitsStart settings p around e)
  obtain ⟨hangs, undue⟩ := hung quiet (hangsStart settings p around limit e)
  have start : begun = (made s (listeningTunnel settings p e) (boundCreation settings p around e), none) := by
    simp only [begun, startBound admitted bound]
  have same : told = told' := by simp only [told, start, goes]
  refine ⟨fun result came => hangs.expired result (same ▸ came), fun ⟨step, mem, due⟩ => ?_, ?_⟩
  · cases told' with
    | none => exact absurd ((undue rfl).2 step mem) (by simp [due])
    | some result => rw [same, hangs.expired result rfl]
  · intro first second quiet' quiet'' due
    rw [List.foldl_append, start, goes]
    exact timerEnds waits hangs quiet' quiet'' due

/- No making of a tunnel loses an endpoint. The remote side is asked for first, and connected to once
at most, when an endpoint was bound. Whenever the maker is told an error, or has gone away, the endpoints
in use are those of before. A maker that is told a tunnel has the one endpoint that was found, unless
accepting failed for good meanwhile. A request whose wait ends with an error leaves nothing behind; and
when the connection never comes, the error is the same whichever timer ends the wait. -/
theorem makingLeaksNothing :
    (∀ turns : List Making.Turn,
      let w := turns.foldl (turnMaking limit) (s.startMaking settings target p around)
      w.2.creation.targets = [(p.instanceLocator, p.port)] ∧
      (∀ reason, target p.instanceLocator p.port = .error reason →
        w.2.creation.asked = [] ∧ Barren s w reason ∧ w.2.outcome = some (.error reason)) ∧
      w.2.creation.connects ≤ 1 ∧
      (w.2.creation.connects = 1 → target p.instanceLocator p.port = .ok () ∧
        ∃ e, (Creation.bindFor settings p around).outcome = .ok e) ∧
      ((∃ reason, w.2.outcome = some (.error reason)) ∨ w.2.creation.stage = .dropped → Restored s w) ∧
      ∀ t, w.2.outcome = some (.ok t) → ∃ e, (Creation.bindFor settings p around).outcome = .ok e ∧
        (HandedOver s w t e ∨ Restored s w) ∧ ((∀ turn ∈ turns, turn.harmless) → HandedOver s w t e)) ∧
    (∀ (steps : List WaitStep) (reason : Failure),
      let w := steps.foldl (waitStep limit) (s.startMaking settings target p around, none)
      w.2 = some (.error reason) →
        Restored s w.1 ∧ ∀ (r n : Nat) (q : Request), s.requests[r]? = some q → q.profile = p →
          q.stage = .creating n → s.pool.entryAt? p.key = some (.pending n) →
          ∃ s', w.1.1.created r (.error reason) = some s' ∧ Refused s s' r p.key reason) ∧
    ∀ (steps : List WaitStep) (e : Endpoint), target p.instanceLocator p.port = .ok () →
      (Creation.bindFor settings p around).outcome = .ok e → (∀ step ∈ steps, step.hangs) →
      let begun := (s.startMaking settings target p around, none)
      let told := (steps.foldl (waitStep limit) begun).2
      (∀ result, told = some result → result = .error (.timeout limit)) ∧
        ((∃ step ∈ steps, step.due = true) → told = some (.error (.timeout limit))) ∧
        ∀ first second : Look, first.hangs → second.hangs → first.probe.due = true →
          ((steps ++ expiry first second).foldl (waitStep limit) begun).2 = some (.error (.timeout limit)) := by
  refine ⟨fun turns => ?making, fun steps reason => ?wait,
    fun steps e admitted bound quiet => waitTimesOut s settings target p around limit admitted bound steps quiet⟩
  case making =>
    obtain ⟨targets, ⟨reason, refused, asked, barren⟩ | ⟨reason, admitted, unbound, barren⟩ |
      ⟨e, c, x, admitted, bound, same, fits, calm⟩⟩ := makingGoes s settings target p around limit turns
    · have told := barrenOutcome barren
      refine ⟨targets, fun reason' refused' => ?_, by rw [barren.connects]; omega, by simp [barren.connects],
        fun _ => barrenRestored barren, fun t told' => by cases told.symm.trans told'⟩
      cases refused.symm.trans refused'
      exact ⟨asked, barren, told⟩
    · have told := barrenOutcome barren
      exact ⟨targets, fun reason' refused => (by cases admitted.symm.trans refused), by rw [barren.connects]; omega,
        by simp [barren.connects], fun _ => barrenRestored barren, fun t told' => by cases told.symm.trans told'⟩
    · rw [same]
      refine ⟨same ▸ targets, fun reason refused => (by cases admitted.symm.trans refused), fits.counted.once,
        fun _ => ⟨admitted, e, bound⟩, fun ended => fitsRestored fits (fits.closed (letGo ended)),
        fun t told => ⟨e, bound, ?_⟩⟩
      rcases outcomeStage rfl told with ⟨e', ready, ⟨⟩⟩ | ⟨reason, -, ⟨⟩⟩
      have held : c.stage.held.isSome = true := by
        rw [show c.stage = _ from ready]
        rfl
      refine ⟨?_, fun fair => fitsHandedOver fits ((calm fair).opened held).1 ready⟩
      cases closed : x.life.closed with
      | false => exact .inl (fitsHandedOver fits closed ready)
      | true => exact .inr (fitsRestored fits closed)
  case wait =>
    intro w told
    obtain ⟨restored, beside⟩ := waitFails s settings target p around limit steps told
    refine ⟨restored, fun r n q found mine waiting marked => ?_⟩
    subst mine
    exact createdFails beside restored.inUse found waiting marked reason

end

theorem makingLeaksNothingSecondPort :
    let s := (Shared.after (Shared.asking Shared.desktop 0)).service
    let limit := Duration.ofSecs 30
    let settings : ListenSettings := { ports := ⟨50000, 50002⟩ }
    let around : Surroundings Endpoint :=
      { bind := fun _ e => if e.port = 50000 then .error (.ofBind e (.described .addrInUse "")) else .ok e
        draw := fun drawing _ => drawing - 1
        cancelled := fun _ => false }
    let e := Endpoint.ofAddress (.v4 .localhost) 50001
    let begun := s.startMaking settings (fun _ _ => .ok ()) Shared.desktop around
    let connects : List Making.Turn :=
      [.poll {}, .outside (.arrive (.fault (.described .interrupted ""))), .outside .loop,
        .poll { connect := some (.ok ()) }]
    let refuses : List Making.Turn :=
      [.poll {}, .poll { connect := some (.error (.connectionDenied "")) }, .outside .loop, .poll {}]
    let hangs : List WaitStep := .look {} :: expiry { probe := { due := true } } {}
    HandedOver s (connects.foldl (turnMaking limit) begun) 0 e ∧
      Restored s (refuses.foldl (turnMaking limit) begun) ∧
      Restored s ([Making.Turn.poll {}, .drop].foldl (turnMaking limit) begun) ∧
      (hangs.foldl (waitStep limit) (begun, none)).2 = some (.error (.timeout limit)) ∧
      ∃ s', (hangs.foldl (waitStep limit) (begun, none)).1.1.created 0 (.error (.timeout limit)) = some s' ∧
        Refused s s' 0 Shared.desktop.key (.timeout limit) := by
  intro s limit settings around e begun connects refuses hangs
  obtain ⟨makes, waits, hanging⟩ := makingLeaksNothing s settings (fun _ _ => .ok ()) Shared.desktop around limit
  have bound : (Creation.bindFor settings Shared.desktop around).outcome = .ok e := by decide
  have told : (hangs.foldl (waitStep limit) (begun, none)).2 = some (.error (.timeout limit)) :=
    (hanging [.look {}] e rfl bound (by simp [WaitStep.hangs, Look.hangs])).2.2 { probe := { due := true } } {}
      ⟨rfl, rfl, rfl⟩ ⟨rfl, rfl, rfl⟩ rfl
  have made : HandedOver s (connects.foldl (turnMaking limit) begun) 0 e := by
    obtain ⟨-, -, -, -, -, ready⟩ := makes connects
    obtain ⟨e', bound', -, given⟩ := ready 0 (by decide)
    obtain rfl : e' = e := Except.ok.inj (bound'.symm.trans bound)
    exact given (by simp [connects, Making.Turn.harmless, Making.Happening.harmless, IoError.isTransient, IoError.kind])
  have refused : Restored s (refuses.foldl (turnMaking limit) begun) := by
    obtain ⟨-, -, -, -, restored, -⟩ := makes refuses
    exact restored (.inl ⟨.connectionDenied "", by decide⟩)
  have dropped : Restored s ([Making.Turn.poll {}, .drop].foldl (turnMaking limit) begun) := by
    obtain ⟨-, -, -, -, restored, -⟩ := makes [.poll {}, .drop]
    exact restored (.inr (by decide))
  obtain ⟨-, answered⟩ := waits hangs (.timeout limit) told
  have found : s.requests[0]? = some { profile := Shared.desktop, stage := .creating 0 } := by rfl
  have marked : s.pool.entryAt? Shared.desktop.key = some (.pending 0) := by decide
  clear_value hangs
  exact ⟨made, refused, dropped, told, answered 0 0 _ found rfl rfl marked⟩

/- While the remote side is connected to, no file is left to accept a client with: the accept loop ends and
closes the tunnel. The connection comes, and the maker is told the tunnel, which is closed by then. -/
theorem makingHandsOverClosed :
    let s := (Shared.after (Shared.asking Shared.desktop 0)).service
    let around : Surroundings Endpoint :=
      { bind := fun _ e => .ok e, draw := fun drawing _ => drawing, cancelled := fun _ => false }
    let begun := s.startMaking { ports := ⟨50000, 50002⟩ } (fun _ _ => .ok ()) Shared.desktop around
    let turns : List Making.Turn :=
      [.poll {}, .outside (.arrive (.fault (.os 24))), .outside .loop, .poll { connect := some (.ok ()) }]
    let w := turns.foldl (turnMaking (Duration.ofSecs 30)) begun
    w.2.outcome = some (.ok 0) ∧ w.1.inUse = s.inUse ∧
      (∃ x, w.1.tunnels[0]? = some x ∧ x.life.closed = true ∧ x.life.listening = false) ∧
      ∀ e, ¬ HandedOver s w 0 e := by
  intro s around begun turns w
  have told : w.2.outcome = some (.ok 0) := by decide
  have same : w.1.inUse = s.inUse := by decide
  have shown : w.1.tunnels[0]?.map (fun x => (x.life.closed, x.life.listening)) = some (true, false) := by decide
  clear_value w
  obtain ⟨x, here, life⟩ := Option.map_eq_some_iff.mp shown
  obtain ⟨closed, listening⟩ := Prod.mk.inj life
  refine ⟨told, same, ⟨x, here, closed, listening⟩, fun e handed => ?_⟩
  obtain ⟨y, here', -, opened⟩ := handed.tunnel
  cases here.symm.trans here'
  cases closed.symm.trans opened

end Service
end TunnelRelay
