import TunnelRelay.Proofs.Pool.References
import TunnelRelay.Proofs.Pool.Restriction

/-! Steps and keys. A step of a key is the same step of what belongs to that key, whether it can
be taken or not; to what belongs to any other key it does nothing. -/
namespace TunnelRelay.Sorting
open Service (Request Stage Event)
open Shared (Action Sorted Allots)

variable {s : Sorting} {k : ProfileKey} {c : Shared}

theorem watchPool {v : Service} {k : ProfileKey} {t : TunnelId} {w : Service × List ProfileKey}
    (watched : v.watch k t = some w) : w.1.pool = v.pool := by
  simp only [Service.watch, bind, Option.bind_eq_some_iff] at watched
  obtain ⟨y, -, last⟩ := watched
  cases last
  exact setLifePool ..

theorem openAgree (sorted : Sorted s c) (k : ProfileKey) :
    s.Agree k c.service.isOpen (s.serviceOf k c.service).isOpen c.service.pool :=
  fun t entry => openOwn (sorted.lives k t entry) c.service

section
variable {r : Nat} (sorted : Sorted s c) (own : s.request r = k)
include sorted own

theorem watchOwn {x : Request} {t : TunnelId} (found : c.service.requests[r]? = some x)
    (at' : x.stage = .watching t) :
    (s.serviceOf k c.service).watch k (s.tunnelAt k t) =
      (c.service.watch k t).map fun w => (s.serviceOf k w.1, w.2) := by
  have key := (sorted.requests r x found).symm.trans own
  have tunnel : s.tunnel t = k := (sorted.handed r x t found (by rw [at']; rfl)).trans key
  simp only [Service.watch, tunnelOwn tunnel, bind]
  cases c.service.tunnels[t]? with
  | none => rfl
  | some y => simp only [Option.bind_some, Option.map_some, setLifeOwn tunnel]

theorem advanceOwn (b : Bool) (allotted : ∀ x, c.service.requests[r]? = some x → x.stage = .registering →
      s.attempt c.service.pool.nextAttempt = x.profile.key) :
    (s.serviceOf k c.service).advance b (s.requestAt k r) = (c.service.advance b r).map (s.serviceOf k) := by
  have agree := openAgree sorted k
  simp only [Service.advance, requestOwn own, bind]
  cases found : c.service.requests[r]? with
  | none => rfl
  | some x =>
    have key : x.profile.key = k := (sorted.requests r x found).symm.trans own
    have handed (t : TunnelId) (tunnel : x.stage.tunnel? = some t) : s.tunnel t = k :=
      (sorted.handed r x t found tunnel).trans key
    simp only [Option.map_some, Option.bind_some, requestOf, key]
    cases at' : x.stage with
    | entering =>
      simp only [stageOf]
      split
      · simp only [Option.map_some, setStageOwn own, stageOf]
      · split <;> simp only [Option.map_some, setStageOwn own, stageOf]
    | looking =>
      simp only [stageOf, servicePool, lookupOwn agree]
      cases c.service.pool.lookup c.service.isOpen k <;>
        simp only [Option.map_some, Option.map_none, setStageOwn own, stageOf]
    | registering =>
      have label : s.attempt c.service.pool.nextAttempt = k := (allotted x found at').trans key
      simp only [stageOf, Option.map_some, setStageOwn own, setPool, registerOwn agree label]
      rfl
    | creating a => rfl
    | promoting a t =>
      simp only [stageOf, Option.map_some, setStageOwn own, setPool, promoteOwn agree]
      rfl
    | settling a t =>
      have label : s.attempt a = k := (sorted.attempts r x a found (by rw [at']; rfl)).1.trans key
      have marks (b : Nat) (entry : c.service.pool.entryAt? k = some (.pending b)) := (sorted.marks k b entry).1
      simp only [stageOf, Option.map_some, setStageOwn own, setPool, abandonOwn marks label]
      rfl
    | announcing t =>
      simp only [stageOf, Option.map_some, setStageOwn own, publishOwn (e := .created t) (handed t (by rw [at']; rfl))]
      rfl
    | watching t =>
      simp only [stageOf, watchOwn sorted own found at']
      cases watched : c.service.watch k t with
      | none => rfl
      | some w =>
        have lives (u : TunnelId) (entry : w.1.pool.entryAt? k = some (.live u)) :=
          sorted.lives k u (watchPool watched ▸ entry)
        simp only [Option.map_some, Option.bind_some]
        split
        · simp only [Option.map_some, setStageOwn own, stageOf]
        · simp only [Option.map_some, setStageOwn own, forgetOwn lives (handed t (by rw [at']; rfl)), stageOf]
    | telling t =>
      simp only [stageOf, Option.map_some, setStageOwn own, publishOwn (e := .closed t) (handed t (by rw [at']; rfl))]
      rfl
    | done result => cases result <;> rfl
    | aborted => rfl

theorem createdOwn (outcome : Except Failure TunnelId) :
    (s.serviceOf k c.service).created (s.requestAt k r) (outcome.map (s.tunnelAt k)) =
      (c.service.created r outcome).map (s.serviceOf k) := by
  simp only [Service.created, requestOwn own, bind]
  cases found : c.service.requests[r]? with
  | none => rfl
  | some x =>
    have key : x.profile.key = k := (sorted.requests r x found).symm.trans own
    simp only [Option.map_some, Option.bind_some, requestOf, key]
    cases at' : x.stage with
    | creating a =>
      have label : s.attempt a = k := (sorted.attempts r x a found (by rw [at']; rfl)).1.trans key
      have marks (b : Nat) (entry : c.service.pool.entryAt? k = some (.pending b)) := (sorted.marks k b entry).1
      cases outcome with
      | ok t => simp only [stageOf, Except.map, Option.map_some, setStageOwn own]
      | error reason =>
        simp only [stageOf, Except.map, Option.map_some, setStageOwn own, setPool, abandonOwn marks label]
        rfl
    | done result => cases result <;> rfl
    | _ => rfl

theorem abortOwn : (s.serviceOf k c.service).abort (s.requestAt k r) = (c.service.abort r).map (s.serviceOf k) := by
  simp only [Service.abort, requestOwn own, bind]
  cases found : c.service.requests[r]? with
  | none => rfl
  | some x =>
    have key : x.profile.key = k := (sorted.requests r x found).symm.trans own
    simp only [Option.map_some, Option.bind_some, requestOf, key]
    cases at' : x.stage with
    | creating a =>
      have label : s.attempt a = k := (sorted.attempts r x a found (by rw [at']; rfl)).1.trans key
      have marks (b : Nat) (entry : c.service.pool.entryAt? k = some (.pending b)) := (sorted.marks k b entry).1
      simp only [stageOf, Option.map_some, setStageOwn own, setPool, abandonOwn marks label]
      rfl
    | done result => cases result <;> rfl
    | _ => rfl

omit sorted in
theorem transportOwn (v : Service) : (s.serviceOf k v).transport? (s.requestAt k r) =
    (v.transport? r).map (s.tunnelAt k) := by
  simp only [Service.transport?, Service.stage?, requestOwn own, Option.map_map]
  cases v.requests[r]? with
  | none => rfl
  | some x =>
    obtain ⟨p, stage, released, gone⟩ := x
    cases stage with
    | done result => cases result <;> rfl
    | _ => rfl

omit sorted in
theorem releaseOwn (v : Service) : (s.serviceOf k v).release (s.requestAt k r) =
    (v.release r).map fun w => (s.serviceOf k w.1, s.tunnelAt k w.2) := by
  simp only [Service.release, requestOwn own, transportOwn own, bind]
  cases v.requests[r]? with
  | none => rfl
  | some x =>
    cases v.transport? r with
    | none => rfl
    | some t =>
      simp only [Option.map_some, Option.bind_some, requestOf]
      split
      · rfl
      · simp only [Option.map_some, setRequestOwn own, requestOf]

end

section
variable {r : Nat} {w : Service} (sorted : Sorted s c) (apart : s.request r ≠ k)
include sorted apart

theorem watchOther {x : Request} {t : TunnelId} {due : List ProfileKey} (found : c.service.requests[r]? = some x)
    (at' : x.stage = .watching t) (watched : c.service.watch x.profile.key t = some (w, due)) :
    s.serviceOf k w = s.serviceOf k c.service := by
  have tunnel : s.tunnel t ≠ k := by
    rw [sorted.handed r x t found (by rw [at']; rfl), ← sorted.requests r x found]
    exact apart
  simp only [Service.watch, bind, Option.bind_eq_some_iff] at watched
  obtain ⟨y, -, last⟩ := watched
  cases last
  exact setLifeOther tunnel ..

theorem advanceOther {b : Bool} (allotted : ∀ x, c.service.requests[r]? = some x → x.stage = .registering →
      s.attempt c.service.pool.nextAttempt = x.profile.key) (moved : c.service.advance b r = some w) :
    s.serviceOf k w = s.serviceOf k c.service := by
  simp only [Service.advance, bind, Option.bind_eq_some_iff] at moved
  obtain ⟨x, found, moved⟩ := moved
  have key : x.profile.key ≠ k := sorted.requests r x found ▸ apart
  have handed (t : TunnelId) (tunnel : x.stage.tunnel? = some t) : s.tunnel t ≠ k :=
    (sorted.handed r x t found tunnel).symm ▸ key
  cases at' : x.stage with
  | entering =>
    simp only [at'] at moved
    split at moved
    · cases moved
      exact setStageOther apart ..
    · split at moved <;> cases moved <;> exact setStageOther apart ..
  | looking =>
    simp only [at'] at moved
    split at moved <;> cases moved <;> exact setStageOther apart ..
  | registering =>
    simp only [at'] at moved
    cases moved
    have label : s.attempt c.service.pool.nextAttempt ≠ k := (allotted x found at').symm ▸ key
    exact (setStageOther apart ..).trans (setPoolOther (registerOther key label))
  | creating a => simp [at'] at moved
  | promoting a t =>
    simp only [at'] at moved
    cases moved
    exact (setStageOther apart ..).trans (setPoolOther (promoteOther key t))
  | settling a t =>
    simp only [at'] at moved
    cases moved
    exact (setStageOther apart ..).trans (setPoolOther (abandonOther key a))
  | announcing t =>
    simp only [at'] at moved
    cases moved
    exact (setStageOther apart ..).trans (publishOther (handed t (by rw [at']; rfl)) _)
  | watching t =>
    simp only [at', Option.bind_eq_some_iff] at moved
    obtain ⟨⟨w, due⟩, watched, moved⟩ := moved
    have same := watchOther sorted apart found at' watched
    split at moved <;> cases moved
    · exact (setStageOther apart ..).trans same
    · exact ((setStageOther apart ..).trans (forgetOther key w t)).trans same
  | telling t =>
    simp only [at'] at moved
    cases moved
    exact (setStageOther apart ..).trans (publishOther (handed t (by rw [at']; rfl)) _)
  | done result => simp [at'] at moved
  | aborted => simp [at'] at moved

theorem createdOther {outcome : Except Failure TunnelId} (moved : c.service.created r outcome = some w) :
    s.serviceOf k w = s.serviceOf k c.service := by
  simp only [Service.created, bind, Option.bind_eq_some_iff] at moved
  obtain ⟨x, found, moved⟩ := moved
  have key : x.profile.key ≠ k := sorted.requests r x found ▸ apart
  split at moved <;> cases moved
  · exact setStageOther apart ..
  · exact (setStageOther apart ..).trans (setPoolOther (abandonOther key _))

theorem abortOther (moved : c.service.abort r = some w) : s.serviceOf k w = s.serviceOf k c.service := by
  simp only [Service.abort, bind, Option.bind_eq_some_iff] at moved
  obtain ⟨x, found, moved⟩ := moved
  have key : x.profile.key ≠ k := sorted.requests r x found ▸ apart
  split at moved <;> cases moved
  exact (setStageOther apart ..).trans (setPoolOther (abandonOther key _))

end

theorem requestTunnel (s : Sorting) (k : ProfileKey) (x : Request) :
    (s.requestOf k x).tunnel? = x.tunnel?.map (s.tunnelAt k) := by
  obtain ⟨p, stage, released, gone⟩ := x
  cases stage with
  | done result =>
    cases result with
    | error e => rfl
    | ok t => cases gone <;> rfl
  | _ => rfl

section
variable {t : TunnelId} (own : s.tunnel t = k)
include own

theorem sameTunnel {u : TunnelId} (here : s.tunnel u = k) : s.tunnelAt k u = s.tunnelAt k t ↔ u = t :=
  Labels.placeInjective here own

theorem referredOwn (c : Shared) : (s.only k c).references.contains (s.tunnelAt k t) = c.references.contains t := by
  rw [List.contains_eq_any_beq, List.contains_eq_any_beq]
  refine Labels.anyFilter (fun u _ here => ?_) fun u _ same => ?_
  · rw [Bool.eq_iff_iff, beq_iff_eq, beq_iff_eq, eq_comm, sameTunnel own (of_decide_eq_true here), eq_comm]
  · rw [← beq_iff_eq.mp same]
    exact decide_eq_true own

variable (sorted : Sorted s c)
include sorted

theorem livedOwn : (s.only k c).service.pool.entries.any (fun e => e.2 == .live (s.tunnelAt k t)) =
    c.service.pool.entries.any fun e => e.2 == .live t := by
  have live {k' : ProfileKey} {u : TunnelId} (mem : (k', .live u) ∈ c.service.pool.entries) : s.tunnel u = k' :=
    sorted.lives k' u ((Pool.entryMember sorted.keyed).mpr mem)
  refine Labels.anyFilter (fun e mem here => ?_) fun e mem same => ?_
  · obtain ⟨k', e⟩ := e
    rw [Bool.eq_iff_iff, beq_iff_eq, beq_iff_eq]
    cases e with
    | pending a => simp [entryOf]
    | live u => simpa [entryOf] using sameTunnel own ((live mem).trans (of_decide_eq_true here))
  · obtain ⟨k', e⟩ := e
    cases beq_iff_eq.mp same
    exact decide_eq_true ((live mem).symm.trans own)

theorem requestedOwn : (s.only k c).service.requests.any (fun x => x.tunnel? == some (s.tunnelAt k t)) =
    c.service.requests.any fun x => x.tunnel? == some t := by
  have handed {r : Nat} {x : Request} {u : TunnelId} (found : c.service.requests[r]? = some x)
      (tunnel : x.tunnel? = some u) : s.tunnel u = s.request r :=
    (sorted.handed r x u found (Shared.stageTunnel (x := x) tunnel)).trans (sorted.requests r x found).symm
  refine Labels.anyPick (fun r x found here => ?_) fun r x found same => ?_
  · rw [Bool.eq_iff_iff, beq_iff_eq, beq_iff_eq, requestTunnel]
    cases tunnel : x.tunnel? with
    | none => simp
    | some u => simpa using sameTunnel own ((handed found tunnel).trans here)
  · exact (handed found (beq_iff_eq.mp same)).symm.trans own

theorem tornOwn : (s.only k c).teardowns.any (fun d => d.borrowed && d.phase != .ended && d.tunnel == s.tunnelAt k t) =
    c.teardowns.any fun d => d.borrowed && d.phase != .ended && d.tunnel == t := by
  refine Labels.anyPick (fun i d found here => ?_) fun i d found same => ?_
  · have tunnel : s.tunnel d.tunnel = k := (sorted.teardowns i d found).symm.trans here
    have same : (s.tunnelAt k d.tunnel == s.tunnelAt k t) = (d.tunnel == t) := by
      rw [Bool.eq_iff_iff, beq_iff_eq, beq_iff_eq, sameTunnel own tunnel]
    simp only [teardownOf, same]
  · have here : d.tunnel = t := beq_iff_eq.mp (Bool.and_eq_true_iff.mp same).2
    exact (sorted.teardowns i d found).trans (here ▸ own)

theorem heldOwn : (s.only k c).held (s.tunnelAt k t) = c.held t := by
  simp only [Shared.held, referredOwn own, livedOwn own sorted, requestedOwn own sorted, tornOwn own sorted]

end

end TunnelRelay.Sorting
