import TunnelRelay.Proofs.Pool.Sorting

/-! What operations on a pool and a service leave of one key: an operation of that key is the
same operation on what belongs to it, and an operation of another key does nothing. -/
namespace TunnelRelay.Sorting
open Service (Request Stage Event)
open Shared (Sorted)

variable {s : Sorting} {k k' : ProfileKey}

section
variable {p : Pool}

theorem entryOwn (s : Sorting) (k : ProfileKey) (p : Pool) :
    (s.poolOf k p).entryAt? k = (p.entryAt? k).map (s.entryOf k) := by
  obtain ⟨entries, next⟩ := p
  simp only [Pool.entryAt?, poolOf]
  induction entries with
  | nil => rfl
  | cons e entries ih =>
    obtain ⟨k', entry⟩ := e
    by_cases same : k' = k
    · simp [same]
    · have apart : (k == k') = false := beq_false_of_ne (Ne.symm same)
      simpa [same, List.lookup_cons, apart] using ih

theorem putOwn (s : Sorting) (k : ProfileKey) (p : Pool) (e : PoolEntry) :
    s.poolOf k (p.put k e) = (s.poolOf k p).put k (s.entryOf k e) := by
  simp [poolOf, Pool.put, List.filter_append, List.filter_filter, List.filter_map, Function.comp_def, Bool.and_comm]

theorem eraseOwn (s : Sorting) (k : ProfileKey) (p : Pool) : s.poolOf k (p.erase k) = (s.poolOf k p).erase k := by
  simp [poolOf, Pool.erase, List.filter_filter, List.filter_map, Function.comp_def, Bool.and_comm]

theorem keepOther (apart : k' ≠ k) (entries : List (ProfileKey × PoolEntry)) :
    ((entries.filter fun e => e.1 != k').filter fun e => decide (e.1 = k)) =
      entries.filter fun e => decide (e.1 = k) := by
  rw [List.filter_filter]
  refine List.filter_congr fun e _ => ?_
  by_cases here : e.1 = k
  · simp [here, Ne.symm apart]
  · simp [here]

theorem putOther (apart : k' ≠ k) (e : PoolEntry) : s.poolOf k (p.put k' e) = s.poolOf k p := by
  simp [poolOf, Pool.put, List.filter_append, keepOther apart, apart]

theorem eraseOther (apart : k' ≠ k) : s.poolOf k (p.erase k') = s.poolOf k p := by
  simp [poolOf, Pool.erase, keepOther apart]

def Agree (s : Sorting) (k : ProfileKey) (isOpen isOpen' : TunnelId → Bool) (p : Pool) : Prop :=
  ∀ t, p.entryAt? k = some (.live t) → isOpen' (s.tunnelAt k t) = isOpen t

variable {isOpen isOpen' : TunnelId → Bool}

theorem lookupOwn (agree : s.Agree k isOpen isOpen' p) :
    (s.poolOf k p).lookup isOpen' k = (p.lookup isOpen k).map (s.tunnelAt k) := by
  simp only [Pool.lookup, entryOwn]
  cases entry : p.entryAt? k with
  | none => rfl
  | some e =>
    cases e with
    | pending a => rfl
    | live t =>
      simp only [Option.map_some, Option.bind_some, entryOf, PoolEntry.healthy, agree t entry]
      split <;> rfl

theorem registerOwn (agree : s.Agree k isOpen isOpen' p) (own : s.attempt p.nextAttempt = k) :
    s.poolOf k (p.register isOpen k).1 = ((s.poolOf k p).register isOpen' k).1 := by
  have next : s.poolOf k { p with nextAttempt := p.nextAttempt + 1 } =
      { s.poolOf k p with nextAttempt := (s.poolOf k p).nextAttempt + 1 } := by
    simp only [poolOf, attemptAt, Labels.placeOwn own]
  have looked := lookupOwn (p := { p with nextAttempt := p.nextAttempt + 1 }) agree
  simp only [Pool.register]
  rw [← next, looked, Option.isSome_map]
  split
  · rfl
  · exact putOwn ..

theorem registerOther (apart : k' ≠ k) (other : s.attempt p.nextAttempt ≠ k) :
    s.poolOf k (p.register isOpen k').1 = s.poolOf k p := by
  have next : s.poolOf k { p with nextAttempt := p.nextAttempt + 1 } = s.poolOf k p := by
    simp only [poolOf, attemptAt, Labels.placeOther other]
  simp only [Pool.register]
  split
  · exact next
  · exact (putOther apart _).trans next

theorem promoteOwn (agree : s.Agree k isOpen isOpen' p) (t : TunnelId) :
    s.poolOf k (p.promote isOpen k t).1 = ((s.poolOf k p).promote isOpen' k (s.tunnelAt k t)).1 := by
  simp only [Pool.promote, lookupOwn agree, Option.isSome_map]
  split
  · rfl
  · exact putOwn ..

theorem promoteOther (apart : k' ≠ k) (t : TunnelId) : s.poolOf k (p.promote isOpen k' t).1 = s.poolOf k p := by
  simp only [Pool.promote]
  split
  · rfl
  · exact putOther apart _

theorem abandonOwn {a : Nat} (marks : ∀ b, p.entryAt? k = some (.pending b) → s.attempt b = k)
    (own : s.attempt a = k) : s.poolOf k (p.abandon k a) = (s.poolOf k p).abandon k (s.attemptAt k a) := by
  have marked : (s.poolOf k p).entryAt? k = some (.pending (s.attemptAt k a)) ↔ p.entryAt? k = some (.pending a) := by
    rw [entryOwn]
    cases entry : p.entryAt? k with
    | none => simp
    | some e =>
      cases e with
      | live t => simp [entryOf]
      | pending b => simpa [entryOf, attemptAt] using Labels.placeInjective (marks b entry) own
  simp only [Pool.abandon, marked]
  split
  · exact eraseOwn ..
  · rfl

theorem abandonOther (apart : k' ≠ k) (a : Nat) : s.poolOf k (p.abandon k' a) = s.poolOf k p := by
  simp only [Pool.abandon]
  split
  · exact eraseOther apart
  · rfl

theorem pooledOwn {t : TunnelId} (lives : ∀ u, p.entryAt? k = some (.live u) → s.tunnel u = k)
    (own : s.tunnel t = k) :
    (s.poolOf k p).entryAt? k = some (.live (s.tunnelAt k t)) ↔ p.entryAt? k = some (.live t) := by
  rw [entryOwn]
  cases entry : p.entryAt? k with
  | none => simp
  | some e =>
    cases e with
    | pending a => simp [entryOf]
    | live u => simpa [entryOf, tunnelAt] using Labels.placeInjective (lives u entry) own

theorem removeOwn {t : TunnelId} (lives : ∀ u, p.entryAt? k = some (.live u) → s.tunnel u = k)
    (own : s.tunnel t = k) : s.poolOf k (p.remove k t) = (s.poolOf k p).remove k (s.tunnelAt k t) := by
  simp only [Pool.remove, pooledOwn lives own]
  split
  · exact eraseOwn ..
  · rfl

theorem removeOther (apart : k' ≠ k) (t : TunnelId) : s.poolOf k (p.remove k' t) = s.poolOf k p := by
  simp only [Pool.remove]
  split
  · exact eraseOther apart
  · rfl

end

section
variable {v : Service}

theorem requestOwn {r : Nat} (own : s.request r = k) (v : Service) :
    (s.serviceOf k v).requests[s.requestAt k r]? = (v.requests[r]?).map (s.requestOf k) := by
  simp only [serviceOf, requestAt, List.getElem?_map, Labels.pickAt own]

theorem tunnelOwn {t : TunnelId} (own : s.tunnel t = k) (v : Service) :
    (s.serviceOf k v).tunnels[s.tunnelAt k t]? = v.tunnels[t]? :=
  Labels.pickAt own _

theorem openOwn {t : TunnelId} (own : s.tunnel t = k) (v : Service) :
    (s.serviceOf k v).isOpen (s.tunnelAt k t) = v.isOpen t := by
  simp only [Service.isOpen, tunnelOwn own]

theorem setRequestOwn {r : Nat} (own : s.request r = k) (v : Service) (x : Request) :
    s.serviceOf k { v with requests := v.requests.set r x } =
      { s.serviceOf k v with requests := (s.serviceOf k v).requests.set (s.requestAt k r) (s.requestOf k x) } := by
  simp only [serviceOf, requestAt, Labels.pickSetOwn own, List.map_set]

theorem setRequestOther {r : Nat} (apart : s.request r ≠ k) (x : Request) :
    s.serviceOf k { v with requests := v.requests.set r x } = s.serviceOf k v := by
  simp only [serviceOf, Labels.pickSetOther apart]

theorem setTunnelOwn {t : TunnelId} (own : s.tunnel t = k) (v : Service) (y : Tunnel ProfileKey) :
    s.serviceOf k { v with tunnels := v.tunnels.set t y } =
      { s.serviceOf k v with tunnels := (s.serviceOf k v).tunnels.set (s.tunnelAt k t) y } := by
  simp only [serviceOf, tunnelAt, Labels.pickSetOwn own]

theorem setTunnelOther {t : TunnelId} (apart : s.tunnel t ≠ k) (y : Tunnel ProfileKey) :
    s.serviceOf k { v with tunnels := v.tunnels.set t y } = s.serviceOf k v := by
  simp only [serviceOf, Labels.pickSetOther apart]

theorem setStageOwn {r : Nat} (own : s.request r = k) (v : Service) (stage : Stage) :
    s.serviceOf k (v.setStage r stage) = (s.serviceOf k v).setStage (s.requestAt k r) (s.stageOf k stage) := by
  simp only [Service.setStage, requestOwn own]
  cases v.requests[r]? with
  | none => rfl
  | some x => exact setRequestOwn own v _

theorem setStageOther {r : Nat} (apart : s.request r ≠ k) (v : Service) (stage : Stage) :
    s.serviceOf k (v.setStage r stage) = s.serviceOf k v := by
  simp only [Service.setStage]
  cases v.requests[r]? with
  | none => rfl
  | some x => exact setRequestOther apart _

theorem setLifeOwn {t : TunnelId} (own : s.tunnel t = k) (v : Service) (life : Lifecycle ProfileKey) :
    s.serviceOf k (v.setLife t life) = (s.serviceOf k v).setLife (s.tunnelAt k t) life := by
  simp only [Service.setLife, tunnelOwn own]
  cases v.tunnels[t]? with
  | none => rfl
  | some y => exact setTunnelOwn own v _

theorem setLifeOther {t : TunnelId} (apart : s.tunnel t ≠ k) (v : Service) (life : Lifecycle ProfileKey) :
    s.serviceOf k (v.setLife t life) = s.serviceOf k v := by
  simp only [Service.setLife]
  cases v.tunnels[t]? with
  | none => rfl
  | some y => exact setTunnelOther apart _

theorem eventTunnel (s : Sorting) (k : ProfileKey) (e : Event) :
    (s.eventOf k e).tunnel = s.tunnelAt k e.tunnel := by
  cases e <;> rfl

theorem publishOwn {e : Event} (own : s.tunnel e.tunnel = k) (v : Service) :
    s.serviceOf k (v.publish e) = (s.serviceOf k v).publish (s.eventOf k e) := by
  simp [serviceOf, Service.publish, List.filter_append, own]

theorem publishOther {e : Event} (apart : s.tunnel e.tunnel ≠ k) (v : Service) :
    s.serviceOf k (v.publish e) = s.serviceOf k v := by
  simp [serviceOf, Service.publish, List.filter_append, apart]

theorem servicePool (s : Sorting) (k : ProfileKey) (v : Service) : (s.serviceOf k v).pool = s.poolOf k v.pool :=
  rfl

theorem setPool (s : Sorting) (k : ProfileKey) (v : Service) (p : Pool) :
    s.serviceOf k { v with pool := p } = { s.serviceOf k v with pool := s.poolOf k p } :=
  rfl

theorem setPoolOther {p : Pool} (same : s.poolOf k p = s.poolOf k v.pool) :
    s.serviceOf k { v with pool := p } = s.serviceOf k v := by
  rw [setPool, same]
  rfl

theorem forgetOwn {t : TunnelId} (lives : ∀ u, v.pool.entryAt? k = some (.live u) → s.tunnel u = k)
    (own : s.tunnel t = k) : s.serviceOf k (v.forget t k) = (s.serviceOf k v).forget (s.tunnelAt k t) k := by
  simp only [Service.forget, setPool, servicePool, removeOwn lives own]

theorem forgetOther (apart : k' ≠ k) (v : Service) (t : TunnelId) :
    s.serviceOf k (v.forget t k') = s.serviceOf k v :=
  setPoolOther (removeOther apart t)

end

section
variable {v : Service}

theorem setLifePool (v : Service) (t : TunnelId) (life : Lifecycle ProfileKey) : (v.setLife t life).pool = v.pool := by
  unfold Service.setLife
  split <;> rfl

theorem setLifePublished (v : Service) (t : TunnelId) (life : Lifecycle ProfileKey) :
    (v.setLife t life).published = v.published := by
  unfold Service.setLife
  split <;> rfl

theorem setStagePublished (v : Service) (r : Nat) (stage : Stage) : (v.setStage r stage).published = v.published := by
  unfold Service.setStage
  split <;> rfl

end

end TunnelRelay.Sorting
