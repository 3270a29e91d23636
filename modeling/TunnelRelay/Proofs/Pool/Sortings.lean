import Mathlib.Logic.Function.Basic
import TunnelRelay.Proofs.Pool.Isolation
import TunnelRelay.Proofs.Pool.Numbers

/-! Sortings of runs. Every step that allots its numbers rightly keeps a state sorted, and
every run of which each tunnel has one key has a sorting, found by labelling the numbers as
they are given out. -/
namespace TunnelRelay.Shared
open Service (Request Stage)
open Teardown (Phase)

variable {s s' : Sorting} {c c' : Shared} {a : Action}

section
variable (moved : c.step a = some c') (sorted : Sorted s c) (allots : Allots s c a)
include moved sorted allots

theorem requestsSorted {r : Nat} {x : Request} (found : c'.service.requests[r]? = some x) :
    s.request r = x.profile.key := by
  by_cases asks : ∃ p, a = .ask p
  · obtain ⟨p, rfl⟩ := asks
    cases moved
    rcases appendAt found with old | ⟨rfl, rfl⟩
    · exact sorted.requests r x old
    · exact allots.request p rfl
  · have step := stepCases moved
    cases requestCame step found with
    | same before => exact sorted.requests r x before
    | asked p new =>
      have length := requestsKept step fun p here => asks ⟨p, here⟩
      exact absurd (length ▸ new) (beyond found)
    | @moved y _ _ before => exact sorted.requests r y before
    | @released y _ before => exact sorted.requests r y before
    | @left y before => exact sorted.requests r y before

theorem deliveriesSorted {r : Nat} {t : TunnelId} (mem : (r, t) ∈ c'.deliveries) :
    s.tunnel t = s.request r ∧ r < c'.service.requests.length := by
  have step := stepCases moved
  rcases deliveryCame step mem with old | ⟨rfl, -, n, x, found, -⟩
  · obtain ⟨tunnel, known⟩ := sorted.deliveries r t old
    exact ⟨tunnel, Nat.lt_of_lt_of_le known (requestsGrow step)⟩
  · obtain ⟨known, -⟩ := List.getElem?_eq_some_iff.mp found
    exact ⟨allots.tunnel r t rfl, Nat.lt_of_lt_of_le known (requestsGrow step)⟩

theorem handedSorted {r : Nat} {x : Request} {t : TunnelId} (found : c'.service.requests[r]? = some x)
    (tunnel : x.stage.tunnel? = some t) : s.tunnel t = x.profile.key := by
  have step := stepCases moved
  cases requestCame step found with
  | same before => exact sorted.handed r x t before tunnel
  | asked p => contradiction
  | @moved y old stage before at' move =>
    have still (kept : y.stage.tunnel? = some t) : s.tunnel t = y.profile.key := sorted.handed r y t before kept
    cases move with
    | hit entry =>
      cases tunnel
      exact sorted.lives _ t entry
    | deliver n held handed =>
      cases tunnel
      have mem : (r, t) ∈ c'.deliveries := by simp [handed]
      exact (deliveriesSorted moved sorted allots mem).1.trans (sorted.requests r y before)
    | promote => exact still (at' ▸ tunnel)
    | settle => exact still (at' ▸ tunnel)
    | announce => exact still (at' ▸ tunnel)
    | watch => exact still (at' ▸ tunnel)
    | overdue => exact still (at' ▸ tunnel)
    | tell => exact still (at' ▸ tunnel)
    | _ => contradiction
  | @released y _ before => exact sorted.handed r y t before tunnel
  | @left y before => exact sorted.handed r y t before tunnel

theorem attemptsSorted {r n : Nat} {x : Request} (found : c'.service.requests[r]? = some x)
    (attempt : x.stage.attempt? = some n) :
    s.attempt n = x.profile.key ∧ n < c'.service.pool.nextAttempt := by
  have step := stepCases moved
  have grown {m : Nat} {y : Request} (known : s.attempt m = y.profile.key ∧ m < c.service.pool.nextAttempt) :
      s.attempt m = y.profile.key ∧ m < c'.service.pool.nextAttempt :=
    ⟨known.1, Nat.lt_of_lt_of_le known.2 (attemptsGrow step)⟩
  cases requestCame step found with
  | same before => exact grown (sorted.attempts r x n before attempt)
  | asked p => contradiction
  | @moved y old stage before at' move =>
    have still (kept : y.stage.attempt? = some n) := grown (sorted.attempts r y n before kept)
    cases move with
    | register m acted fresh counted =>
      cases attempt
      exact ⟨fresh ▸ allots.attempt r _ y acted before at', counted ▸ Nat.lt_succ_self n⟩
    | deliver => exact still (at' ▸ attempt)
    | promote => exact still (at' ▸ attempt)
    | _ => contradiction
  | @released y _ before => exact grown (sorted.attempts r y n before attempt)
  | @left y before => exact grown (sorted.attempts r y n before attempt)

theorem entriesSorted {k : ProfileKey} :
    (∀ n, c'.service.pool.entryAt? k = some (.pending n) → s.attempt n = k ∧ n < c'.service.pool.nextAttempt) ∧
      ∀ t, c'.service.pool.entryAt? k = some (.live t) → s.tunnel t = k := by
  have step := stepCases moved
  constructor
  · intro n entry
    rcases pendingCame step entry with before | ⟨r, x, found, rfl, at'⟩
    · obtain ⟨label, known⟩ := sorted.marks k n before
      exact ⟨label, Nat.lt_of_lt_of_le known (attemptsGrow step)⟩
    · exact attemptsSorted moved sorted allots found (by rw [at']; rfl)
  · intro t entry
    rcases liveCame step entry with before | ⟨r, x, n, found, rfl, at', -⟩
    · exact sorted.lives k t before
    · exact sorted.handed r x t found (by rw [at']; rfl)

omit allots in
theorem handlersSorted {t : TunnelId} {l : Lifecycle ProfileKey} {h : ProfileKey}
    (known : c'.service.life? t = some l) (mem : h ∈ l.handlers) : h = s.tunnel t := by
  cases lifeCame (stepCases moved) known with
  | same before => exact sorted.handlers t l h before mem
  | made => contradiction
  | @watched l r x before opened found at' =>
    rcases List.mem_append.mp mem with old | new
    · exact sorted.handlers t l h before old
    · rw [List.mem_singleton.mp new]
      exact (sorted.handed r x t found (by rw [at']; rfl)).symm
  | torn before _ _ _ tears =>
    cases tears with
    | take => contradiction
    | _ => exact sorted.handlers t _ h before mem

theorem teardownsSorted {i : Nat} {d : Teardown} (found : c'.teardowns[i]? = some d) :
    s.teardown i = s.tunnel d.tunnel := by
  cases teardownCame (stepCases moved) found with
  | same before => exact sorted.teardowns i d before
  | begun new =>
    rcases teardownsCame moved with ⟨-, length⟩ | ⟨t, borrowed, closes, teardowns⟩
    · exact absurd (length ▸ new) (beyond found)
    · rw [teardowns] at found
      rcases appendAt found with old | ⟨rfl, same⟩
      · exact absurd new (beyond old)
      · cases same
        exact allots.teardown _ closes
  | @moved d _ _ before => exact sorted.teardowns i d before

omit allots in
theorem dueSorted {i : Nat} {d : Teardown} {h : ProfileKey} (found : c'.teardowns[i]? = some d)
    (due : h ∈ d.phase.due) : h = s.tunnel d.tunnel := by
  cases teardownCame (stepCases moved) found with
  | same before => exact sorted.due i d h before due
  | begun => contradiction
  | @moved d old phase before at' goes =>
    have still (kept : h ∈ d.phase.due) : h = s.tunnel d.tunnel := sorted.due i d h before kept
    rw [at'] at still
    cases goes with
    | late => contradiction
    | tear tears known =>
      cases tears with
      | take =>
        rw [Teardown.dueNotify] at due
        exact sorted.handlers _ _ h known due
      | _ => contradiction
    | forget removed next =>
      rcases next with ⟨-, rfl⟩ | ⟨-, rfl⟩
      · exact still (List.mem_cons_of_mem _ due)
      · rw [Teardown.dueNotify] at due
        exact still (List.mem_cons_of_mem _ due)
    | publish rest =>
      rw [Teardown.dueNotify] at due
      exact still due

theorem sortedStep : Sorted s c' where
  keyed := keyedStep (stepCases moved) sorted.keyed
  requests _ _ := requestsSorted moved sorted allots
  handed _ _ _ := handedSorted moved sorted allots
  attempts _ _ _ := attemptsSorted moved sorted allots
  marks _ := (entriesSorted moved sorted allots).1
  lives _ := (entriesSorted moved sorted allots).2
  handlers _ _ _ := handlersSorted moved sorted
  teardowns _ _ := teardownsSorted moved sorted allots
  deliveries _ _ := deliveriesSorted moved sorted allots
  due _ _ _ := dueSorted moved sorted

end

theorem sortedEmpty (s : Sorting) : Sorted s {} where
  keyed := List.nodup_nil
  requests := by simp
  handed := by simp
  attempts := by simp
  marks := by simp [Pool.entryAt?]
  lives := by simp [Pool.entryAt?]
  handlers := by simp [Service.life?]
  teardowns := by simp
  deliveries := by simp
  due := by simp

structure Extends (s s' : Sorting) (c : Shared) : Prop where
  request : ∀ r < c.service.requests.length, s'.request r = s.request r
  tunnel : ∀ t < c.service.tunnels.length, s'.tunnel t = s.tunnel t
  teardown : ∀ i < c.teardowns.length, s'.teardown i = s.teardown i
  attempt : ∀ n < c.service.pool.nextAttempt, s'.attempt n = s.attempt n

theorem extendsRefl (s : Sorting) (c : Shared) : Extends s s c :=
  ⟨fun _ _ => rfl, fun _ _ => rfl, fun _ _ => rfl, fun _ _ => rfl⟩

theorem extendsBefore (step : Step c a c') (extends' : Extends s s' c') : Extends s s' c where
  request r known := extends'.request r (Nat.lt_of_lt_of_le known (requestsGrow step))
  tunnel t known := extends'.tunnel t (Nat.lt_of_lt_of_le known (tunnelsGrow step))
  teardown i known := extends'.teardown i (Nat.lt_of_lt_of_le known (teardownsGrow step))
  attempt n known := extends'.attempt n (Nat.lt_of_lt_of_le known (attemptsGrow step))

theorem extendsTrans {s'' : Sorting} (first : Extends s s' c) (second : Extends s' s'' c) : Extends s s'' c where
  request r known := (second.request r known).trans (first.request r known)
  tunnel t known := (second.tunnel t known).trans (first.tunnel t known)
  teardown i known := (second.teardown i known).trans (first.teardown i known)
  attempt n known := (second.attempt n known).trans (first.attempt n known)

section
variable (extends' : Extends s s' c) {k : ProfileKey}
include extends'

theorem requestExtends {r : Nat} (known : r ≤ c.service.requests.length) : s'.requestAt k r = s.requestAt k r :=
  Labels.placeAgree fun m below => extends'.request m (Nat.lt_of_lt_of_le below known)

theorem tunnelExtends {t : TunnelId} (known : t ≤ c.service.tunnels.length) : s'.tunnelAt k t = s.tunnelAt k t :=
  Labels.placeAgree fun m below => extends'.tunnel m (Nat.lt_of_lt_of_le below known)

theorem teardownExtends {i : Nat} (known : i ≤ c.teardowns.length) : s'.teardownAt k i = s.teardownAt k i :=
  Labels.placeAgree fun m below => extends'.teardown m (Nat.lt_of_lt_of_le below known)

theorem attemptExtends {n : Nat} (known : n ≤ c.service.pool.nextAttempt) : s'.attemptAt k n = s.attemptAt k n :=
  Labels.placeAgree fun m below => extends'.attempt m (Nat.lt_of_lt_of_le below known)

theorem actionExtends (mentions : c.Mentions a) : s'.actionOf k a = s.actionOf k a := by
  simp only [Sorting.actionOf]
  cases a with
  | ask | make => rfl
  | advance | fail | abort | release | leave =>
    simp only [Action.rename, requestExtends extends' (Nat.le_of_lt mentions)]
  | deliver =>
    simp only [Action.rename, requestExtends extends' (Nat.le_of_lt mentions.1),
      tunnelExtends extends' (Nat.le_of_lt mentions.2)]
  | teardown => simp only [Action.rename, teardownExtends extends' (Nat.le_of_lt mentions)]
  | _ => simp only [Action.rename, tunnelExtends extends' (Nat.le_of_lt mentions)]

theorem keyExtends {m n : Nat} (mentions : c.Mentions a)
    (makes : Sorting.made a ≠ 0 → s'.tunnel m = s.tunnel n) : s'.keyOf m a = s.keyOf n a := by
  cases a with
  | ask => rfl
  | make => exact makes Nat.one_ne_zero
  | advance | fail | abort | release | leave => exact extends'.request _ mentions
  | deliver => exact extends'.request _ mentions.1
  | teardown => exact extends'.teardown _ mentions
  | _ => exact extends'.tunnel _ mentions

variable (sorted : Sorted s c) (known : Known c)
include sorted known

theorem sortedExtends : Sorted s' c where
  keyed := sorted.keyed
  requests r x found := by
    rw [extends'.request r (List.getElem?_eq_some_iff.mp found).1, sorted.requests r x found]
  handed r x t found tunnel := by
    rw [extends'.tunnel t (known.handed r x t found tunnel), sorted.handed r x t found tunnel]
  attempts r x n found attempt := by
    obtain ⟨label, below⟩ := sorted.attempts r x n found attempt
    exact ⟨(extends'.attempt n below).trans label, below⟩
  marks k n entry := by
    obtain ⟨label, below⟩ := sorted.marks k n entry
    exact ⟨(extends'.attempt n below).trans label, below⟩
  lives k t entry := by rw [extends'.tunnel t (known.lives k t entry), sorted.lives k t entry]
  handlers t l h life mem := by rw [extends'.tunnel t (lifeBound life), sorted.handlers t l h life mem]
  teardowns i d found := by
    rw [extends'.teardown i (List.getElem?_eq_some_iff.mp found).1, extends'.tunnel _ (known.teardowns i d found),
      sorted.teardowns i d found]
  deliveries r t mem := by
    obtain ⟨label, below⟩ := sorted.deliveries r t mem
    exact ⟨by rw [extends'.tunnel t (known.deliveries r t mem), extends'.request r below, label], below⟩
  due i d h found due := by rw [extends'.tunnel _ (known.teardowns i d found), sorted.due i d h found due]

theorem stageExtends {r : Nat} {x : Request} (found : c.service.requests[r]? = some x) :
    s'.requestOf k x = s.requestOf k x := by
  have place (t : TunnelId) (tunnel : x.stage.tunnel? = some t) : s'.tunnelAt k t = s.tunnelAt k t :=
    tunnelExtends extends' (Nat.le_of_lt (known.handed r x t found tunnel))
  have number (n : Nat) (attempt : x.stage.attempt? = some n) : s'.attemptAt k n = s.attemptAt k n :=
    attemptExtends extends' (Nat.le_of_lt (sorted.attempts r x n found attempt).2)
  simp only [Sorting.requestOf]
  cases at' : x.stage with
  | creating n => simp only [Sorting.stageOf, number n (by rw [at']; rfl)]
  | promoting n t | settling n t =>
    simp only [Sorting.stageOf, number n (by rw [at']; rfl), place t (by rw [at']; rfl)]
  | announcing t | watching t | telling t => simp only [Sorting.stageOf, place t (by rw [at']; rfl)]
  | done result =>
    cases result with
    | error e => rfl
    | ok t => simp only [Sorting.stageOf, place t (by rw [at']; rfl)]
  | _ => rfl

theorem poolExtends (k : ProfileKey) : s'.poolOf k c.service.pool = s.poolOf k c.service.pool := by
  have entries : ((c.service.pool.entries.filter fun e => decide (e.1 = k)).map fun e => (e.1, s'.entryOf k e.2)) =
      (c.service.pool.entries.filter fun e => decide (e.1 = k)).map fun e => (e.1, s.entryOf k e.2) := by
    refine List.map_congr_left fun e mem => ?_
    obtain ⟨k', e⟩ := e
    have present := (Pool.entryMember sorted.keyed).mpr (List.mem_filter.mp mem).1
    cases e with
    | live t => simp only [Sorting.entryOf, tunnelExtends extends' (Nat.le_of_lt (known.lives k' t present))]
    | pending n =>
      have below := Nat.le_of_lt (sorted.marks k' n present).2
      simp only [Sorting.entryOf, attemptExtends extends' below]
  simp only [Sorting.poolOf, entries, attemptExtends extends' (Nat.le_refl _)]

theorem requestsExtend (k : ProfileKey) : (s'.request.pick k c.service.requests).map (s'.requestOf k) =
    (s.request.pick k c.service.requests).map (s.requestOf k) := by
  rw [Labels.pickAgree extends'.request]
  refine List.map_congr_left fun x mem => ?_
  obtain ⟨r, -, found⟩ := Labels.pickCame mem
  exact stageExtends extends' sorted known found

omit sorted in
theorem teardownsExtend (k : ProfileKey) : (s'.teardown.pick k c.teardowns).map (s'.teardownOf k) =
    (s.teardown.pick k c.teardowns).map (s.teardownOf k) := by
  rw [Labels.pickAgree extends'.teardown]
  refine List.map_congr_left fun d mem => ?_
  obtain ⟨i, -, found⟩ := Labels.pickCame mem
  simp only [Sorting.teardownOf, tunnelExtends extends' (Nat.le_of_lt (known.teardowns i d found))]

omit sorted in
theorem eventsExtend (k : ProfileKey) :
    (c.service.published.filter fun e => s'.tunnel e.tunnel = k).map (s'.eventOf k) =
      (c.service.published.filter fun e => s.tunnel e.tunnel = k).map (s.eventOf k) := by
  rw [List.filter_congr fun e mem => by rw [extends'.tunnel _ (known.published e mem)]]
  refine List.map_congr_left fun e mem => ?_
  have place : s'.tunnelAt k e.tunnel = s.tunnelAt k e.tunnel :=
    tunnelExtends extends' (Nat.le_of_lt (known.published e (List.mem_filter.mp mem).1))
  cases e with
  | created => exact congrArg Service.Event.created place
  | closed => exact congrArg Service.Event.closed place

omit sorted in
theorem referencesExtend (k : ProfileKey) : (c.references.filter fun t => s'.tunnel t = k).map (s'.tunnelAt k) =
    (c.references.filter fun t => s.tunnel t = k).map (s.tunnelAt k) := by
  rw [List.filter_congr fun t mem => by rw [extends'.tunnel t (known.references t mem)]]
  exact List.map_congr_left fun t mem =>
    tunnelExtends extends' (Nat.le_of_lt (known.references t (List.mem_filter.mp mem).1))

theorem deliveriesExtend (k : ProfileKey) :
    ((c.deliveries.filter fun d => s'.request d.1 = k).map fun d => (s'.requestAt k d.1, s'.tunnelAt k d.2)) =
      (c.deliveries.filter fun d => s.request d.1 = k).map fun d => (s.requestAt k d.1, s.tunnelAt k d.2) := by
  have below (d : Nat × TunnelId) (mem : d ∈ c.deliveries) := (sorted.deliveries d.1 d.2 mem).2
  rw [List.filter_congr fun d mem => by rw [extends'.request d.1 (below d mem)]]
  refine List.map_congr_left fun d mem => ?_
  have present := (List.mem_filter.mp mem).1
  rw [requestExtends extends' (Nat.le_of_lt (below d present)),
    tunnelExtends extends' (Nat.le_of_lt (known.deliveries d.1 d.2 present))]

theorem onlyExtends (k : ProfileKey) : s'.only k c = s.only k c := by
  simp only [Sorting.only, Sorting.serviceOf, poolExtends extends' sorted known, requestsExtend extends' sorted known,
    teardownsExtend extends' known, eventsExtend extends' known, referencesExtend extends' known,
    deliveriesExtend extends' sorted known, Labels.pickAgree extends'.tunnel]

end

def relabel (s : Sorting) (c : Shared) (k : ProfileKey) (a : Action) : Sorting where
  request := match a with
    | .ask _ => Function.update s.request c.service.requests.length k
    | _ => s.request
  tunnel := match a with
    | .make .. => Function.update s.tunnel c.service.tunnels.length k
    | _ => s.tunnel
  teardown := Function.update s.teardown c.teardowns.length k
  attempt := Function.update s.attempt c.service.pool.nextAttempt k

theorem relabelExtends (s : Sorting) (c : Shared) (k : ProfileKey) (a : Action) : Extends s (relabel s c k a) c where
  request r known := by
    simp only [relabel]
    split
    · exact Function.update_of_ne (Nat.ne_of_lt known) ..
    · rfl
  tunnel t known := by
    simp only [relabel]
    split
    · exact Function.update_of_ne (Nat.ne_of_lt known) ..
    · rfl
  teardown i known := Function.update_of_ne (Nat.ne_of_lt known) ..
  attempt n known := Function.update_of_ne (Nat.ne_of_lt known) ..

section
variable {k : ProfileKey} (mentions : c.Mentions a) (key : Sorting.made a = 0 → s.keyOf c.service.tunnels.length a = k)
include key

include mentions in
theorem relabelKey : (relabel s c k a).keyOf c.service.tunnels.length a = k := by
  cases a with
  | make => exact Function.update_self ..
  | teardown i => exact (Function.update_of_ne (Nat.ne_of_lt mentions) ..).trans (key rfl)
  | _ => exact key rfl

theorem relabelAllots (sorted : Sorted s c) (handed : ∀ r t, a = .deliver r t → s.tunnel t = s.request r) :
    Allots (relabel s c k a) c a where
  request p here := by
    subst here
    exact (Function.update_self ..).trans (key rfl).symm
  tunnel r t here := by
    subst here
    exact handed r t rfl
  teardown t closes := by
    refine (Function.update_self ..).trans ?_
    cases a with
    | dispose | destroy =>
      cases closes
      exact (key rfl).symm
    | release r =>
      obtain ⟨x, found, done⟩ := transportRequest closes
      have tunnel : s.tunnel t = x.profile.key := sorted.handed r x t found (by rw [done]; rfl)
      exact ((tunnel.trans (sorted.requests r x found).symm).trans (key rfl)).symm
    | _ => cases closes
  attempt r b x here found _ := by
    subst here
    exact (Function.update_self ..).trans ((key rfl).symm.trans (sorted.requests r x found))

end

theorem relabelTunnel {k : ProfileKey} (label : Sorting.made a ≠ 0 → s.tunnel c.service.tunnels.length = k) :
    (relabel s c k a).tunnel = s.tunnel := by
  cases a with
  | make =>
    obtain rfl := label Nat.one_ne_zero
    exact Function.update_eq_self ..
  | _ => rfl

theorem relabelRequest {k : ProfileKey} (label : ∀ p, a = .ask p → s.request c.service.requests.length = k) :
    (relabel s c k a).request = s.request := by
  cases a with
  | ask p =>
    obtain rfl := label p rfl
    exact Function.update_eq_self ..
  | _ => rfl

theorem keyMade (s : Sorting) {n : Nat} (makes : Sorting.made a ≠ 0) : s.tunnel n = s.keyOf n a := by
  cases a with
  | make => rfl
  | _ => exact absurd rfl makes

theorem allotsExtends (moved : c.step a = some c') (sorted : Sorted s c) (allots : Allots s c a) (known : Known c')
    (extends' : Extends s s' c') : Allots s' c a where
  request p here := by
    subst here
    cases moved
    rw [extends'.request _ (by simp [Service.addRequest]), allots.request p rfl]
  tunnel r t here := by
    subst here
    have mem := (deliverMoved moved).1
    obtain ⟨label, below⟩ := deliveriesSorted moved sorted allots mem
    rw [extends'.tunnel t (known.deliveries r t mem), extends'.request r below, label]
  teardown t closes := by
    rcases teardownsCame moved with ⟨none, -⟩ | ⟨u, borrowed, same, more⟩
    · rw [none] at closes
      cases closes
    · cases closes.symm.trans same
      have begun : c'.teardowns[c.teardowns.length]? = some { tunnel := t, borrowed } := by simp [more]
      rw [extends'.teardown _ (by simp [more]), extends'.tunnel t (known.teardowns _ _ begun), allots.teardown t closes]
  attempt r b x here found at' := by
    subst here
    rw [registerStep found at' b] at moved
    cases moved
    rw [extends'.attempt _ (by simp [Pool.nextRegister]), allots.attempt r b x rfl found at']

def Owned (owner : Labels) (c : Shared) : Prop :=
  ∀ (r : Nat) t x, (r, t) ∈ c.deliveries → c.service.requests[r]? = some x → owner t = x.profile.key

theorem ownedBefore {owner : Labels} (step : Step c a c') (owned : Owned owner c') : Owned owner c := by
  intro r t x mem found
  obtain ⟨x', later, grows⟩ := requestGrows step found
  rw [owned r t x' (deliveryKept step mem) later, grows.profile]

theorem ownedRun {owner : Labels} {actions : List Action} (ran : c.run actions = some c') (owned : Owned owner c') :
    Owned owner c :=
  runKeeps (P := fun d => Owned owner d → Owned owner c) (fun step before owned => before (ownedBefore step owned)) id
    ran owned

theorem ownedHanded {r : Nat} {t : TunnelId} (moved : c.step (.deliver r t) = some c') (sorted : Sorted s c)
    (owned : Owned s.tunnel c') : s.tunnel t = s.request r := by
  obtain ⟨mem, x, found⟩ := deliverMoved moved
  obtain ⟨x', later, grows⟩ := requestGrows (stepCases moved) found
  rw [owned r t x' mem later, grows.profile, sorted.requests r x found]

theorem fitting {actions : List Action} (reachable : c.Reachable) (ran : c.run actions = some c') (sorted : Sorted s c)
    (owned : Owned s.tunnel c') : ∃ s', s'.tunnel = s.tunnel ∧ Extends s s' c ∧ Fits s' c actions := by
  induction actions generalizing c s with
  | nil => exact ⟨s, rfl, extendsRefl s c, trivial⟩
  | cons a rest ih =>
    obtain ⟨next, moved, ran⟩ := Option.bind_eq_some_iff.mp ran
    have step := stepCases moved
    have known := knownReachable reachable
    have reachable' := reachableStep reachable moved
    have handed (r : Nat) (t : TunnelId) (here : a = .deliver r t) : s.tunnel t = s.request r :=
      ownedHanded (here ▸ moved) sorted (ownedRun ran owned)
    have labelled := relabelExtends s c (s.keyOf c.service.tunnels.length a) a
    have allots := relabelAllots (fun _ => rfl) sorted handed
    have tunnels := relabelTunnel (keyMade s (n := c.service.tunnels.length) (a := a))
    have sorted := sortedExtends labelled sorted known
    obtain ⟨s', same, extends', fits⟩ := ih reachable' ran (sortedStep moved sorted allots) (tunnels.symm ▸ owned)
    refine ⟨s', same.trans tunnels, extendsTrans labelled (extendsBefore step extends'),
      allotsExtends moved sorted allots (knownReachable reachable') extends', ?_⟩
    intro d here
    cases moved.symm.trans here
    exact fits

end TunnelRelay.Shared
