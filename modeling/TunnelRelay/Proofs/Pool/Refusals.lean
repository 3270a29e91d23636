import TunnelRelay.Pool.Callers
import TunnelRelay.Proofs.Pool.Attempts

/-! Requests that fail. What a request did before it failed is read off the turns of
its caller: `Fails` lists the five ways to fail, in the order in which they are looked
for, and `Course` the way to each stage. None of these turns shows in the service
beyond the request itself and the mark of its own attempt, which is gone in the end. -/
namespace TunnelRelay.Shared
open Service (Request Stage Sight)

def idle (sight : Sight) : Prop := sight.cancelled = false ∧ sight.creation = none ∧ sight.due = false

theorem idleOutcome {limit : Duration} {sight : Sight} : sight.outcome limit = none ↔ idle sight := by
  obtain ⟨cancelled, creation, due⟩ := sight
  cases cancelled <;> cases creation <;> cases due <;> simp [Sight.outcome, idle]

theorem failedOutcome {limit : Duration} {sight : Sight} {e : Failure}
    (outcome : sight.outcome limit = some (.error e)) :
    sight.cancelled = true ∧ e = .cancelled ∨ sight.cancelled = false ∧ sight.creation = some (.error e) ∨
      sight.cancelled = false ∧ sight.creation = none ∧ sight.due = true ∧ e = .timeout limit := by
  obtain ⟨cancelled, creation, due⟩ := sight
  cases cancelled <;> cases creation <;> cases due <;> simp_all [Sight.outcome, eq_comm]

def opening (r : Nat) (b b' : Bool) : List Turn :=
  [.act (.advance r false), .act (.advance r b), .act (.advance r b')]

def waiting (r : Nat) (b b' : Bool) (sights : List Sight) : List Turn := opening r b b' ++ sights.map (.poll r)

/- Why a request failed, by the turns that it took. -/
inductive Fails (limit : Duration) (p : Profile) (r : Nat) : List Turn → Failure → Prop where
  | denied (b : Bool) (forbidden : p.isPermitted = false) :
      Fails limit p r [.act (.advance r b)] (.policyDenied p.policy.id p.target)
  | refused (permitted : p.isPermitted = true) : Fails limit p r [.act (.advance r true)] .cancelled
  | cancelled (b b' : Bool) {sights sight} (permitted : p.isPermitted = true) (waited : ∀ s ∈ sights, idle s)
      (ended : sight.cancelled = true) : Fails limit p r (waiting r b b' sights ++ [.poll r sight]) .cancelled
  | failed (b b' : Bool) {sights sight e} (permitted : p.isPermitted = true) (waited : ∀ s ∈ sights, idle s)
      (present : sight.cancelled = false) (ended : sight.creation = some (.error e)) :
      Fails limit p r (waiting r b b' sights ++ [.poll r sight]) e
  | expired (b b' : Bool) {sights sight} (permitted : p.isPermitted = true) (waited : ∀ s ∈ sights, idle s)
      (present : sight.cancelled = false) (unfinished : sight.creation = none) (ended : sight.due = true) :
      Fails limit p r (waiting r b b' sights ++ [.poll r sight]) (.timeout limit)

/- How a request came to its stage. Nothing is said of those that were given a tunnel. -/
inductive Course (limit : Duration) (p : Profile) (r : Nat) : Stage → List Turn → Prop where
  | entering : Course limit p r .entering []
  | looking (permitted : p.isPermitted = true) : Course limit p r .looking [.act (.advance r false)]
  | registering (b : Bool) (permitted : p.isPermitted = true) :
      Course limit p r .registering [.act (.advance r false), .act (.advance r b)]
  | creating (n : Nat) (b b' : Bool) {sights} (permitted : p.isPermitted = true) (waited : ∀ s ∈ sights, idle s) :
      Course limit p r (.creating n) (waiting r b b' sights)
  | failed {turns e} (fails : Fails limit p r turns e) : Course limit p r (.done (.error e)) turns
  | aborted (b b' : Bool) {sights} (permitted : p.isPermitted = true) (waited : ∀ s ∈ sights, idle s) :
      Course limit p r .aborted (waiting r b b' sights ++ [.act (.abort r)])
  | served {stage turns t} (tunnel : stage.tunnel? = some t) : Course limit p r stage turns

inductive Tries (limit : Duration) (s : Service) (r : Nat) (x : Request) : Turn → Stage → Pool → Prop where
  | deny (b : Bool) (at' : x.stage = .entering) (forbidden : x.profile.isPermitted = false) :
      Tries limit s r x (.act (.advance r b)) (.done (.error (.policyDenied x.profile.policy.id x.profile.target))) s.pool
  | refuse (at' : x.stage = .entering) (permitted : x.profile.isPermitted = true) :
      Tries limit s r x (.act (.advance r true)) (.done (.error .cancelled)) s.pool
  | enter (at' : x.stage = .entering) (permitted : x.profile.isPermitted = true) :
      Tries limit s r x (.act (.advance r false)) .looking s.pool
  | miss (b : Bool) (at' : x.stage = .looking) : Tries limit s r x (.act (.advance r b)) .registering s.pool
  | register (b : Bool) (at' : x.stage = .registering) :
      Tries limit s r x (.act (.advance r b)) (.creating s.pool.nextAttempt) (s.pool.register s.isOpen x.profile.key).1
  | wait {n sight} (at' : x.stage = .creating n) (none' : sight.outcome limit = none) :
      Tries limit s r x (.poll r sight) x.stage s.pool
  | fail {n sight e} (at' : x.stage = .creating n) (outcome : sight.outcome limit = some (.error e)) :
      Tries limit s r x (.poll r sight) (.done (.error e)) (s.pool.abandon x.profile.key n)
  | abort {n} (at' : x.stage = .creating n) :
      Tries limit s r x (.act (.abort r)) .aborted (s.pool.abandon x.profile.key n)

def tried (c : Shared) (r : Nat) (x : Request) (stage : Stage) (pool : Pool) : Shared :=
  { c with service := { staged c.service r x stage with pool } }

section
variable {limits : Nat → Duration} {c c' : Shared} {turn : Turn} {turns : List Turn} {r : Nat} {x : Request}

theorem playLast (played : play limits c (turns ++ [turn]) = some c') :
    ∃ d, play limits c turns = some d ∧ d.turn limits turn = some c' := by
  simp only [play, List.foldlM_append, List.foldlM_cons, List.foldlM_nil, bind_pure] at played
  exact Option.bind_eq_some_iff.mp played

theorem playSplit {first second : List Turn} (played : play limits c (first ++ second) = some c') {d : Shared}
    (before : play limits c first = some d) : play limits d second = some c' := by
  simp only [play, List.foldlM_append] at played before ⊢
  rw [before] at played
  exact played

theorem turnStep (moved : c.turn limits turn = some c') :
    c' = c ∨ ∃ a, a.caller? = turn.caller? ∧ c.step a = some c' := by
  cases turn with
  | act a =>
    simp only [Shared.turn] at moved
    split at moved
    · contradiction
    · exact .inr ⟨a, rfl, moved⟩
  | poll q sight =>
    simp only [Shared.turn] at moved
    split at moved <;> try contradiction
    split at moved
    · exact .inl (Option.some.inj moved).symm
    · rename_i outcome _
      exact .inr ⟨_, by cases outcome <;> rfl, moved⟩

theorem playRun (played : play limits c turns = some c') : ∃ actions, c.run actions = some c' := by
  induction turns using List.reverseRecOn generalizing c' with
  | nil => exact ⟨[], played⟩
  | append_singleton turns turn ih =>
    obtain ⟨d, before, moved⟩ := playLast played
    obtain ⟨actions, ran⟩ := ih before
    rcases turnStep moved with rfl | ⟨a, -, stepped⟩
    · exact ⟨actions, ran⟩
    · exact ⟨actions ++ [a], by rw [runAppend, ran]; exact runStep stepped (runNil c')⟩

theorem createdWaits {s s' : Service} {outcome : Except Failure TunnelId} (ended : s.created r outcome = some s') :
    ∃ n, s.stage? r = some (.creating n) := by
  simp only [Service.created, bind, Option.bind_eq_some_iff] at ended
  obtain ⟨x, found, ended⟩ := ended
  split at ended <;> try contradiction
  all_goals exact ⟨_, by simp [Service.stage?, found]; assumption⟩

theorem stepPlayed {a : Action} (limits : Nat → Duration) (moved : c.step a = some c') :
    ∃ turn, c.turn limits turn = some c' := by
  have polled {q : Nat} {outcome : Except Failure TunnelId} {s : Service}
      (ended : c.service.created q outcome = some s) (moved : c.step (.ending q outcome) = some c') :
      c.turn limits (.poll q { creation := some outcome }) = some c' := by
    obtain ⟨n, waits⟩ := createdWaits ended
    simpa [Shared.turn, waits, Sight.outcome] using moved
  cases told : a.told with
  | false => exact ⟨.act a, by simp [Shared.turn, told, moved]⟩
  | true =>
    cases a with
    | deliver q t =>
      have delivered := moved
      simp only [step] at delivered
      split at delivered <;> try contradiction
      obtain ⟨s, ended, -⟩ := Option.map_eq_some_iff.mp delivered
      exact ⟨_, polled ended moved⟩
    | fail q e =>
      obtain ⟨s, ended, -⟩ := Option.map_eq_some_iff.mp moved
      exact ⟨_, polled ended moved⟩
    | _ => contradiction

theorem playReachable (played : play limits {} turns = some c) : c.Reachable := playRun played

theorem reachablePlayed (limits : Nat → Duration) (reachable : c.Reachable) :
    ∃ turns, play limits {} turns = some c := by
  obtain ⟨actions, ran⟩ := reachable
  induction actions using List.reverseRecOn generalizing c with
  | nil => exact ⟨[], ran⟩
  | append_singleton actions a ih =>
    obtain ⟨d, before, moved⟩ := runLast ran
    obtain ⟨turns, played⟩ := ih before
    obtain ⟨turn, taken⟩ := stepPlayed limits moved
    exact ⟨turns ++ [turn], by rw [play] at played ⊢; simp [List.foldlM_append, played, taken]⟩

theorem stagedOther {s : Service} {q : Nat} {y : Request} {stage : Stage} (other : q ≠ r)
    (found : (staged s r x stage).requests[q]? = some y) : s.requests[q]? = some y := by
  rwa [staged, List.getElem?_set_ne (Ne.symm other)] at found

theorem othersKeep {a : Action} (step : Step c a c') (other : a.caller? ≠ some r) {y : Request}
    (found : c'.service.requests[r]? = some y) :
    (∃ x, c.service.requests[r]? = some x ∧ y.profile = x.profile ∧ y.stage = x.stage) ∨
      c.service.requests.length ≤ r ∧ y.stage = .entering := by
  have caller : ∀ {q}, a.caller? = some q → r ≠ q := by
    rintro q acted rfl
    exact other acted
  cases step with
  | ask p =>
    rcases appendAt found with old | ⟨rfl, rfl⟩
    · exact .inl ⟨y, old, rfl, rfl⟩
    · exact .inr ⟨Nat.le_refl _, rfl⟩
  | walk => exact .inl ⟨y, stagedOther (caller rfl) found, rfl, rfl⟩
  | hit => exact .inl ⟨y, stagedOther (caller rfl) found, rfl, rfl⟩
  | register => exact .inl ⟨y, stagedOther (caller rfl) found, rfl, rfl⟩
  | promote => exact .inl ⟨y, stagedOther (caller rfl) found, rfl, rfl⟩
  | settle => exact .inl ⟨y, stagedOther (caller rfl) found, rfl, rfl⟩
  | announce => exact .inl ⟨y, stagedOther (caller rfl) found, rfl, rfl⟩
  | watch => exact .inl ⟨y, stagedOther (s := lived ..) (caller rfl) found, rfl, rfl⟩
  | overdue => exact .inl ⟨y, stagedOther (s := lived ..) (caller rfl) found, rfl, rfl⟩
  | tell => exact .inl ⟨y, stagedOther (caller rfl) found, rfl, rfl⟩
  | deliver => exact .inl ⟨y, stagedOther (caller rfl) found, rfl, rfl⟩
  | giveUp _ _ finished =>
    rcases finished with ⟨rfl, -⟩ | ⟨e, rfl, -⟩
    · exact .inl ⟨y, stagedOther (caller rfl) found, rfl, rfl⟩
    · exact .inl ⟨y, stagedOther (caller rfl) found, rfl, rfl⟩
  | release known =>
    rcases setCases known found with ⟨rfl, rfl⟩ | ⟨-, same⟩
    · exact .inl ⟨_, known, rfl, rfl⟩
    · exact .inl ⟨y, same, rfl, rfl⟩
  | leave known =>
    rcases setCases known found with ⟨rfl, rfl⟩ | ⟨-, same⟩
    · exact .inl ⟨_, known, rfl, rfl⟩
    · exact .inl ⟨y, same, rfl, rfl⟩
  | _ => exact .inl ⟨y, found, rfl, rfl⟩

theorem ownKnown (mine : turn.caller? = some r) (moved : c.turn limits turn = some c') :
    ∃ x, c.service.requests[r]? = some x := by
  cases known : c.service.requests[r]? with
  | some x => exact ⟨x, rfl⟩
  | none =>
    cases turn with
    | poll q sight =>
      cases mine
      simp [Shared.turn, Service.stage?, known] at moved
    | act a =>
      cases a <;> cases mine
      all_goals simp [Shared.turn, Action.told, step, Service.advance, Service.abort, known] at moved

theorem stagedSame {s : Service} (found : s.requests[r]? = some x) : staged s r x x.stage = s := by
  obtain ⟨bound, rfl⟩ := List.getElem?_eq_some_iff.mp found
  have same : s.requests.set r s.requests[r] = s.requests := List.set_getElem_self bound
  exact congrArg (fun requests => { s with requests }) same

theorem deliverServes (found : c.service.requests[r]? = some x) {n : Nat} (at' : x.stage = .creating n) {t : TunnelId}
    (moved : c.step (.deliver r t) = some c') : c'.service.requests[r]? = some { x with stage := .promoting n t } := by
  simp only [step] at moved
  split at moved <;> try contradiction
  simp only [Service.created, found, bind, Option.bind_some, at', setStageFound found, Option.map_some] at moved
  cases moved
  exact setSelf found _

theorem pollTries (found : c.service.requests[r]? = some x) {sight : Sight}
    (moved : c.turn limits (.poll r sight) = some c') :
    (∃ stage pool, Tries (limits r) c.service r x (.poll r sight) stage pool ∧ c' = c.tried r x stage pool) ∨
      ∃ y t, c'.service.requests[r]? = some y ∧ y.stage.tunnel? = some t := by
  simp only [Shared.turn, Service.stage?, found, Option.map_some] at moved
  split at moved <;> try contradiction
  rename_i n at'
  replace at' := Option.some.inj at'
  split at moved
  · rename_i none'
    refine .inl ⟨_, _, .wait at' none', ?_⟩
    cases moved
    rw [tried, stagedSame found]
  · rename_i outcome known
    cases outcome with
    | ok t => exact .inr ⟨_, t, deliverServes found at' moved, rfl⟩
    | error e =>
      refine .inl ⟨_, _, .fail at' known, ?_⟩
      exact Option.some.inj (moved.symm.trans (failStep found at' e))

theorem servedStays (reachable : c.Reachable) {t : TunnelId} (found : c.service.requests[r]? = some x)
    (tunnel : x.stage.tunnel? = some t) (moved : c.turn limits turn = some c') :
    ∃ y, c'.service.requests[r]? = some y ∧ y.stage.tunnel? = some t := by
  rcases turnStep moved with rfl | ⟨a, -, stepped⟩
  · exact ⟨x, found, tunnel⟩
  · obtain ⟨y, found', grows⟩ := requestGrows (stepCases stepped) found
    exact ⟨y, found', grows.tunnel t tunnel⟩

theorem advanceTries (found : c.service.requests[r]? = some x) (unserved : x.stage.tunnel? = none) {b : Bool}
    (moved : c.step (.advance r b) = some c') :
    (∃ stage pool, Tries (limits r) c.service r x (.act (.advance r b)) stage pool ∧ c' = c.tried r x stage pool) ∨
      ∃ y t, c'.service.requests[r]? = some y ∧ y.stage.tunnel? = some t := by
  cases at' : x.stage with
  | entering =>
    left
    cases permitted : x.profile.isPermitted with
    | false => exact ⟨_, _, .deny b at' permitted, Option.some.inj (moved.symm.trans (denyStep found at' permitted b))⟩
    | true =>
      cases b with
      | true => exact ⟨_, _, .refuse at' permitted, Option.some.inj (moved.symm.trans (refuseStep found at' permitted))⟩
      | false => exact ⟨_, _, .enter at' permitted, Option.some.inj (moved.symm.trans (enterStep found at' permitted))⟩
  | looking =>
    cases looked : c.service.pool.lookup c.service.isOpen x.profile.key with
    | none => exact .inl ⟨_, _, .miss b at', Option.some.inj (moved.symm.trans (missStep found at' looked b))⟩
    | some t =>
      cases moved.symm.trans (hitStep found at' looked b)
      exact .inr ⟨_, t, setSelf found _, rfl⟩
  | registering => exact .inl ⟨_, _, .register b at', Option.some.inj (moved.symm.trans (registerStep found at' b))⟩
  | creating n => simp [step, Service.advance, found, at'] at moved
  | done result => simp [step, Service.advance, found, at'] at moved
  | aborted => simp [step, Service.advance, found, at'] at moved
  | _ => simp [at', Stage.tunnel?] at unserved

theorem abortTries (found : c.service.requests[r]? = some x) (moved : c.step (.abort r) = some c') :
    ∃ stage pool, Tries (limits r) c.service r x (.act (.abort r)) stage pool ∧ c' = c.tried r x stage pool := by
  cases at' : x.stage with
  | creating n => exact ⟨_, _, .abort at', Option.some.inj (moved.symm.trans (abortStep found at'))⟩
  | _ => simp [step, Service.abort, found, at'] at moved

theorem ownTries (found : c.service.requests[r]? = some x) (unserved : x.stage.tunnel? = none)
    (mine : turn.caller? = some r) (moved : c.turn limits turn = some c') :
    (∃ stage pool, Tries (limits r) c.service r x turn stage pool ∧ c' = c.tried r x stage pool) ∨
      ∃ y t, c'.service.requests[r]? = some y ∧ y.stage.tunnel? = some t := by
  cases turn with
  | poll q sight =>
    cases mine
    exact pollTries found moved
  | act a =>
    cases a with
    | advance q b =>
      cases mine
      exact advanceTries found unserved moved
    | abort q =>
      cases mine
      exact .inl (abortTries found moved)
    | deliver => simp [Shared.turn, Action.told] at moved
    | fail => simp [Shared.turn, Action.told] at moved
    | _ => contradiction

theorem courseTries {limit : Duration} {s : Service} {stage : Stage} {pool : Pool}
    (tries : Tries limit s r x turn stage pool) (course : Course limit x.profile r x.stage turns) :
    Course limit x.profile r stage (turns ++ [turn]) := by
  cases tries with
  | deny b at' forbidden =>
    rw [at'] at course
    cases course with
    | entering => exact .failed (.denied b forbidden)
    | served tunnel => contradiction
  | refuse at' permitted =>
    rw [at'] at course
    cases course with
    | entering => exact .failed (.refused permitted)
    | served tunnel => contradiction
  | enter at' permitted =>
    rw [at'] at course
    cases course with
    | entering => exact .looking permitted
    | served tunnel => contradiction
  | miss b at' =>
    rw [at'] at course
    cases course with
    | looking permitted => exact .registering b permitted
    | served tunnel => contradiction
  | register b at' =>
    rw [at'] at course
    cases course with
    | registering b₀ permitted =>
      have none' : ∀ sight ∈ ([] : List Sight), idle sight := by simp
      exact .creating _ b₀ b permitted none'
    | served tunnel => contradiction
  | @wait n sight at' none' =>
    rw [at'] at course ⊢
    cases course with
    | @creating _ b b' sights permitted waited =>
      have longer := List.forall_mem_append.mpr ⟨waited, List.forall_mem_singleton.mpr (idleOutcome.mp none')⟩
      have more : Course limit x.profile r (.creating n) (waiting r b b' (sights ++ [sight])) :=
        .creating n b b' permitted longer
      simpa [waiting] using more
    | served tunnel => contradiction
  | fail at' outcome =>
    rw [at'] at course
    cases course with
    | creating _ b b' permitted waited =>
      refine .failed ?_
      rcases failedOutcome outcome with ⟨gone, rfl⟩ | ⟨present, ended⟩ | ⟨present, unfinished, ended, rfl⟩
      · exact .cancelled b b' permitted waited gone
      · exact .failed b b' permitted waited present ended
      · exact .expired b b' permitted waited present unfinished ended
    | served tunnel => contradiction
  | abort at' =>
    rw [at'] at course
    cases course with
    | creating _ b b' permitted waited => exact .aborted b b' permitted waited
    | served tunnel => contradiction

theorem ownAppend : ownTurns r (turns ++ [turn]) =
    ownTurns r turns ++ if turn.caller? = some r then [turn] else [] := by
  by_cases mine : turn.caller? = some r <;> simp [ownTurns, mine]

theorem ownCourse (reachable : c.Reachable) (found : c.service.requests[r]? = some x)
    (course : Course (limits r) x.profile r x.stage turns) (mine : turn.caller? = some r)
    (moved : c.turn limits turn = some c') {y : Request} (now : c'.service.requests[r]? = some y) :
    Course (limits r) y.profile r y.stage (turns ++ [turn]) := by
  cases served : x.stage.tunnel? with
  | some t =>
    obtain ⟨z, found', tunnel⟩ := servedStays reachable found served moved
    cases now.symm.trans found'
    exact .served tunnel
  | none =>
    rcases ownTries found served mine moved with ⟨stage, pool, tries, rfl⟩ | ⟨z, t, found', tunnel⟩
    · cases now.symm.trans (setSelf found _)
      show Course (limits r) x.profile r stage _
      exact courseTries tries course
    · cases now.symm.trans found'
      exact .served tunnel

theorem coursePlayed (played : play limits {} turns = some c) :
    (∀ x, c.service.requests[r]? = some x → Course (limits r) x.profile r x.stage (ownTurns r turns)) ∧
      (c.service.requests.length ≤ r → ownTurns r turns = []) := by
  induction turns using List.reverseRecOn generalizing c with
  | nil =>
    cases Option.some.inj played
    exact ⟨by simp, fun _ => rfl⟩
  | append_singleton turns turn ih =>
    obtain ⟨d, before, moved⟩ := playLast played
    obtain ⟨course, unasked⟩ := ih before
    rw [ownAppend]
    split
    · rename_i mine
      obtain ⟨x, found⟩ := ownKnown mine moved
      have reachable := playReachable before
      refine ⟨fun y now => ownCourse reachable found (course x found) mine moved now, fun missing => ?_⟩
      rcases turnStep moved with rfl | ⟨a, -, stepped⟩
      · exact absurd missing (beyond found)
      · exact absurd (Nat.le_trans (requestsGrow (stepCases stepped)) missing) (beyond found)
    · rename_i other
      rw [List.append_nil]
      rcases turnStep moved with rfl | ⟨a, caller, stepped⟩
      · exact ⟨course, unasked⟩
      · refine ⟨fun y now => ?_, fun missing => unasked (Nat.le_trans (requestsGrow (stepCases stepped)) missing)⟩
        rcases othersKeep (stepCases stepped) (caller ▸ other) now with ⟨x, found, profile, stage⟩ | ⟨new, entering⟩
        · rw [profile, stage]
          exact course x found
        · rw [unasked new, entering]
          exact .entering

structure Harmless (c c' : Shared) : Prop where
  published : c'.service.published = c.service.published
  tunnels : c'.service.tunnels = c.service.tunnels
  teardowns : c'.teardowns = c.teardowns
  entries : ∀ k t, c.service.isOpen t = true →
    (c'.service.pool.entryAt? k = some (.live t) ↔ c.service.pool.entryAt? k = some (.live t))

theorem triesHarmless {limit : Duration} {stage : Stage} {pool : Pool}
    (tries : Tries limit c.service r x turn stage pool) : Harmless c (c.tried r x stage pool) := by
  refine ⟨rfl, rfl, rfl, fun k t opened => ?_⟩
  show pool.entryAt? k = some (.live t) ↔ _
  cases tries with
  | register => exact ⟨Pool.liveBeforeRegister, fun entry => Pool.keptRegister entry opened⟩
  | fail => exact ⟨Pool.beforeAbandon, fun entry => Pool.keptAbandon entry _⟩
  | abort => exact ⟨Pool.beforeAbandon, fun entry => Pool.keptAbandon entry _⟩
  | _ => exact Iff.rfl

theorem unservedBefore (played : play limits c turns = some c') {y : Request} (found : c.service.requests[r]? = some y)
    (now : c'.service.requests[r]? = some x) (unserved : x.stage.tunnel? = none) : y.stage.tunnel? = none := by
  cases served : y.stage.tunnel? with
  | none => rfl
  | some t =>
    obtain ⟨actions, ran⟩ := playRun played
    obtain ⟨z, found', tunnel⟩ := runKeeps
      (P := fun d => ∃ z, d.service.requests[r]? = some z ∧ z.stage.tunnel? = some t)
      (fun step ⟨z, known, tunnel⟩ =>
        let ⟨z', known', grows⟩ := requestGrows step known
        ⟨z', known', grows.tunnel t tunnel⟩) ⟨y, found, served⟩ ran
    cases now.symm.trans found'
    simp [unserved] at tunnel

theorem ownHarmless (found : c.service.requests[r]? = some x) (unserved : x.stage.tunnel? = none)
    (mine : turn.caller? = some r) (moved : c.turn limits turn = some c') {y : Request}
    (now : c'.service.requests[r]? = some y) (still : y.stage.tunnel? = none) : Harmless c c' := by
  rcases ownTries found unserved mine moved with ⟨stage, pool, tries, rfl⟩ | ⟨z, t, found', tunnel⟩
  · exact triesHarmless tries
  · cases now.symm.trans found'
    simp [still] at tunnel

theorem answered (found : c.service.requests[r]? = some x) {result : Except Failure TunnelId}
    (done : x.stage = .done result) (mine : turn.caller? = some r) : c.turn limits turn = none := by
  cases turn with
  | poll q sight =>
    cases mine
    simp [Shared.turn, Service.stage?, found, done]
  | act a =>
    cases a <;> cases mine
    all_goals simp [Shared.turn, Action.told, step, Service.advance, Service.abort, found, done]

theorem refusedAtEntry (limits : Nat → Duration) (found : c.service.requests[r]? = some x) (at' : x.stage = .entering) {b : Bool}
    (against : x.profile.isPermitted = false ∨ b = true) :
    ∃ e, Fails (limits r) x.profile r [.act (.advance r b)] e ∧
      c.turn limits (.act (.advance r b)) = some (c.tried r x (.done (.error e)) c.service.pool) := by
  cases permitted : x.profile.isPermitted with
  | false => exact ⟨_, .denied b permitted, denyStep found at' permitted b⟩
  | true =>
    obtain rfl : b = true := by simpa [permitted] using against
    exact ⟨_, .refused permitted, refuseStep found at' permitted⟩

theorem refusalTold {e : Failure} (found : c.service.requests[r]? = some x) (done : x.stage = .done (.error e)) :
    ∃ refusal, c.service.refusal? r = some refusal ∧ refusal.reason = e ∧ refusal.topic = HelpTopic.ofFailure e :=
  ⟨.ofFailure e, by simp [Service.refusal?, Service.stage?, found, done], rfl, rfl⟩

theorem pollFails (found : c.service.requests[r]? = some x) {n : Nat} (at' : x.stage = .creating n) {sight : Sight}
    {e : Failure} (outcome : sight.outcome (limits r) = some (.error e)) :
    c.turn limits (.poll r sight) =
      some (c.tried r x (.done (.error e)) (c.service.pool.abandon x.profile.key n)) := by
  simp only [Shared.turn, Service.stage?, found, Option.map_some, at', outcome]
  exact failStep found at' e

end

/- A request that fails leaves no trace: its turns publish nothing, touch no tunnel and no entry
of an open one, and every mark of its own is gone. What it fails with is what stood against it
first. Where that stood at the entry, nothing but the answer changes, and no turn follows. -/
theorem failureLeavesNoTrace {limits : Nat → Duration} {turns : List Turn} {c : Shared}
    (played : play limits {} turns = some c) {r : Nat} {x : Request} (found : c.service.requests[r]? = some x) :
    (∀ b, x.stage = .entering → x.profile.isPermitted = false ∨ b = true →
      ∃ e, Fails (limits r) x.profile r [.act (.advance r b)] e ∧
        c.turn limits (.act (.advance r b)) = some (c.tried r x (.done (.error e)) c.service.pool) ∧
        ∀ turn, turn.caller? = some r →
          (c.tried r x (.done (.error e)) c.service.pool).turn limits turn = none) ∧
    (∀ n sight e, x.stage = .creating n → sight.outcome (limits r) = some (.error e) →
      ∃ c', c.turn limits (.poll r sight) = some c' ∧ ∃ y, c'.service.requests[r]? = some y ∧
        y.stage = .done (.error e)) ∧
    (∀ e, x.stage = .done (.error e) →
      Fails (limits r) x.profile r (ownTurns r turns) e ∧
      ∃ refusal, c.service.refusal? r = some refusal ∧ refusal.reason = e ∧
        refusal.topic = HelpTopic.ofFailure e) ∧
    (x.stage = .aborted ∨ (∃ e, x.stage = .done (.error e)) →
      (∀ first turn second d d', turns = first ++ turn :: second → turn.caller? = some r →
        play limits {} first = some d → d.turn limits turn = some d' → Harmless d d') ∧
      ∀ first second d y n, turns = first ++ second → play limits {} first = some d →
        d.service.requests[r]? = some y → y.stage.attempt? = some n →
        ∀ k, c.service.pool.entryAt? k ≠ some (.pending n)) := by
  refine ⟨?entry, ?waiting, ?reason, fun failed => ⟨?harmless, ?marks⟩⟩
  case entry =>
    intro b at' against
    obtain ⟨e, fails, moved⟩ := refusedAtEntry limits found at' against
    exact ⟨e, fails, moved, fun turn mine => answered (setSelf found _) rfl mine⟩
  case waiting =>
    intro n sight e at' outcome
    exact ⟨_, pollFails found at' outcome, _, setSelf found _, rfl⟩
  case reason =>
    intro e done
    have course := (coursePlayed played).1 x found
    rw [done] at course
    refine ⟨?_, refusalTold found done⟩
    cases course with
    | failed fails => exact fails
    | served tunnel => contradiction
  case harmless =>
    rintro first turn second d d' rfl mine before moved
    have unserved : x.stage.tunnel? = none := by rcases failed with at' | ⟨e, at'⟩ <;> rw [at'] <;> rfl
    obtain ⟨y, earlier⟩ := ownKnown mine moved
    have later : play limits d' second = some c := by
      have rest := playSplit played before
      rwa [play, List.foldlM_cons, moved] at rest
    obtain ⟨z, now⟩ : ∃ z, d'.service.requests[r]? = some z := by
      rcases turnStep moved with rfl | ⟨a, -, stepped⟩
      · exact ⟨y, earlier⟩
      · obtain ⟨z, now, -⟩ := requestGrows (stepCases stepped) earlier
        exact ⟨z, now⟩
    exact ownHarmless earlier (unservedBefore (playSplit played before) earlier found unserved) mine moved now
      (unservedBefore later now found unserved)
  case marks =>
    rintro first second d y n rfl before earlier attempt k
    obtain ⟨actions, ran⟩ := playRun (playSplit played before)
    have ended : x.stage.ended = true := by rcases failed with at' | ⟨e, at'⟩ <;> rw [at'] <;> rfl
    exact unmarked (playReachable before) ran earlier attempt found ended k

theorem failureLeavesNoTraceRivals :
    let limits := fun _ : Nat => Duration.ofSecs 30
    let pooled : List Turn := (asking desktop 0 ++ [Action.make ⟨true, fun _ => true⟩ 1024 {}]).map .act ++
      .poll 0 { creation := some (.ok 0) } :: List.replicate 4 (.act (.advance 0 false)) ++ [.act (.ask desktop)]
    let turns := pooled ++ (asking shell 2 ++ asking shell 3).map .act ++ [.poll 2 {}, .poll 2 { due := true }]
    let c := (play limits {} turns).getD {}
    c.service.pool.entries = [(desktop.key, .live 0), (shell.key, .pending 2)] ∧
      (∃ e, c.turn limits (.act (.advance 1 true)) =
        some (c.tried 1 { profile := desktop } (.done (.error e)) c.service.pool)) ∧
      (∃ refusal, c.service.refusal? 2 = some refusal ∧ refusal.reason = .timeout (.ofSecs 30) ∧
        refusal.topic = .general) ∧
      ∀ k, c.service.pool.entryAt? k ≠ some (.pending 1) := by
  intro limits pooled turns c
  have played : play limits {} turns = some c := rfl
  have late := failureLeavesNoTrace played (r := 2)
    (x := { profile := shell, stage := .done (.error (.timeout (.ofSecs 30))) }) rfl
  have early := failureLeavesNoTrace played (r := 1) (x := { profile := desktop }) rfl
  obtain ⟨e, -, refused, -⟩ := early.1 true rfl (.inr rfl)
  have first : play limits {} (pooled ++ (asking shell 2).map .act) = some (_ : Shared) := rfl
  exact ⟨by decide, ⟨e, refused⟩, (late.2.2.1 _ rfl).2, (late.2.2.2 (.inr ⟨_, rfl⟩)).2 _
    ((asking shell 3).map .act ++ [.poll 2 {}, .poll 2 { due := true }]) _ _ 1 rfl first rfl rfl⟩

end TunnelRelay.Shared
