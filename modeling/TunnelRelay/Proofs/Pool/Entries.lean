import TunnelRelay.Pool

/-! The pool as a map from keys to entries: what each operation leaves under each
key. An open tunnel's entry gives way to none of them but the removal of that very
tunnel. `Keyed` pools hold one entry for a key, so that the map and the list of
entries say the same. -/
namespace TunnelRelay.Pool

def Keyed (p : Pool) : Prop := (p.entries.map Prod.fst).Nodup

theorem lookupFilter {l : List (ProfileKey × PoolEntry)} (k k' : ProfileKey) :
    (l.filter fun x => x.1 != k).lookup k' = if k' = k then none else l.lookup k' := by
  induction l with
  | nil => simp
  | cons head tail ih =>
    obtain ⟨key, entry⟩ := head
    by_cases same : key = k
    · subst same
      simp only [List.filter_cons, bne_self_eq_false, Bool.false_eq_true, if_false, ih, List.lookup_cons]
      by_cases this : k' = key
      · simp [this]
      · simp [this, beq_false_of_ne this]
    · simp only [List.filter_cons, bne_iff_ne, ne_eq, same, not_false_eq_true, if_true, List.lookup_cons, ih]
      by_cases this : k' = key
      · simp [this, same]
      · simp [beq_false_of_ne this]

theorem entryPut (p : Pool) (k k' : ProfileKey) (e : PoolEntry) :
    (p.put k e).entryAt? k' = if k' = k then some e else p.entryAt? k' := by
  simp only [entryAt?, put, List.lookup_append, lookupFilter, List.lookup_cons, List.lookup_nil]
  by_cases same : k' = k
  · simp [same]
  · simp [same, beq_false_of_ne same]

theorem entryErase (p : Pool) (k k' : ProfileKey) :
    (p.erase k).entryAt? k' = if k' = k then none else p.entryAt? k' :=
  lookupFilter k k'

theorem keyedErase {p : Pool} (keyed : p.Keyed) (k : ProfileKey) : (p.erase k).Keyed :=
  (List.filter_sublist.map Prod.fst).nodup keyed

theorem keyedPut {p : Pool} (keyed : p.Keyed) (k : ProfileKey) (e : PoolEntry) : (p.put k e).Keyed := by
  simp only [Keyed, put, List.map_append, List.nodup_append]
  refine ⟨keyedErase keyed k, by simp, ?_⟩
  intro a before b last
  obtain ⟨x, kept, rfl⟩ := List.mem_map.mp before
  have other := (List.mem_filter.mp kept).2
  simp only [List.map_cons, List.map_nil, List.mem_singleton] at last
  subst b
  simpa using other

theorem entryPresent {p : Pool} {k : ProfileKey} {e : PoolEntry} (found : p.entryAt? k = some e) :
    (k, e) ∈ p.entries := by
  obtain ⟨before, after, split, -⟩ := List.lookup_eq_some_iff.mp found
  simp [split]

theorem entryMember {p : Pool} (keyed : p.Keyed) {k : ProfileKey} {e : PoolEntry} :
    p.entryAt? k = some e ↔ (k, e) ∈ p.entries := by
  unfold Keyed at keyed
  unfold entryAt?
  induction h : p.entries generalizing p with
  | nil => simp
  | cons head tail ih =>
    obtain ⟨key, entry⟩ := head
    rw [h, List.map_cons, List.nodup_cons] at keyed
    have rest := ih (p := { p with entries := tail }) keyed.2 rfl
    by_cases same : k = key
    · subst same
      have absent : (k, e) ∉ tail := fun mem => keyed.1 (List.mem_map.mpr ⟨_, mem, rfl⟩)
      simp [absent, eq_comm]
    · have different : (k == key) = false := by simpa using same
      simp [List.lookup_cons, different, same, rest]

theorem lookupOpen {p : Pool} {isOpen : TunnelId → Bool} {k : ProfileKey} {t : TunnelId} :
    p.lookup isOpen k = some t ↔ p.entryAt? k = some (.live t) ∧ isOpen t = true := by
  simp only [lookup, Option.bind_eq_some_iff]
  constructor
  · rintro ⟨e, found, healthy⟩
    cases e with
    | pending a => simp [PoolEntry.healthy] at healthy
    | live u =>
      simp only [PoolEntry.healthy] at healthy
      split at healthy
      · cases Option.some.inj healthy
        exact ⟨found, by assumption⟩
      · contradiction
  · rintro ⟨found, healthy⟩
    exact ⟨_, found, by simp [PoolEntry.healthy, healthy]⟩

theorem lookupNone {p : Pool} {isOpen : TunnelId → Bool} {k : ProfileKey}
    (none' : p.lookup isOpen k = none) {t : TunnelId} (found : p.entryAt? k = some (.live t)) :
    isOpen t = false := by
  cases h : isOpen t with
  | false => rfl
  | true => exact absurd (lookupOpen.mpr ⟨found, h⟩) (by simp [none'])

theorem entryRegister (p : Pool) (isOpen : TunnelId → Bool) (k k' : ProfileKey) :
    (p.register isOpen k).1.entryAt? k' =
      if k' = k ∧ p.lookup isOpen k = none then some (.pending p.nextAttempt) else p.entryAt? k' := by
  have frame : ({ p with nextAttempt := p.nextAttempt + 1 } : Pool).lookup isOpen k = p.lookup isOpen k := rfl
  simp only [register, frame]
  cases h : p.lookup isOpen k with
  | none =>
    simp only [Option.isSome_none, Bool.false_eq_true, if_false, entryPut, and_true]
    split <;> rfl
  | some t => simp [entryAt?]

theorem nextRegister (p : Pool) (isOpen : TunnelId → Bool) (k : ProfileKey) :
    (p.register isOpen k).1.nextAttempt = p.nextAttempt + 1 := by
  simp only [register]
  split <;> rfl

theorem nextPromote (p : Pool) (isOpen : TunnelId → Bool) (k : ProfileKey) (t : TunnelId) :
    (p.promote isOpen k t).1.nextAttempt = p.nextAttempt := by
  unfold promote
  split <;> rfl

theorem nextAbandon (p : Pool) (k : ProfileKey) (a : Nat) : (p.abandon k a).nextAttempt = p.nextAttempt := by
  unfold abandon
  split <;> rfl

theorem nextRemove (p : Pool) (k : ProfileKey) (t : TunnelId) : (p.remove k t).nextAttempt = p.nextAttempt := by
  unfold remove
  split <;> rfl

theorem entryPromote (p : Pool) (isOpen : TunnelId → Bool) (k k' : ProfileKey) (t : TunnelId) :
    (p.promote isOpen k t).1.entryAt? k' =
      if k' = k ∧ p.lookup isOpen k = none then some (.live t) else p.entryAt? k' := by
  unfold promote
  cases h : p.lookup isOpen k with
  | none => simp [entryPut]
  | some u => simp

theorem promoteWins (p : Pool) (isOpen : TunnelId → Bool) (k : ProfileKey) (t : TunnelId) :
    (p.promote isOpen k t).2 = true ↔ p.lookup isOpen k = none := by
  unfold promote
  cases h : p.lookup isOpen k <;> simp

theorem promoteLoses {p : Pool} {isOpen : TunnelId → Bool} {k : ProfileKey} {t : TunnelId}
    (lost : (p.promote isOpen k t).2 = false) : ∃ u, p.lookup isOpen k = some u ∧ (p.promote isOpen k t).1 = p := by
  unfold promote at lost ⊢
  cases h : p.lookup isOpen k with
  | none => simp [h] at lost
  | some u => exact ⟨u, rfl, rfl⟩

theorem entryAbandon (p : Pool) (k k' : ProfileKey) (a : Nat) :
    (p.abandon k a).entryAt? k' = if k' = k ∧ p.entryAt? k = some (.pending a) then none else p.entryAt? k' := by
  unfold abandon
  by_cases marked : p.entryAt? k = some (.pending a) <;> simp [marked, entryErase]

theorem entryRemove (p : Pool) (k k' : ProfileKey) (t : TunnelId) :
    (p.remove k t).entryAt? k' = if k' = k ∧ p.entryAt? k = some (.live t) then none else p.entryAt? k' := by
  unfold remove
  by_cases pooled : p.entryAt? k = some (.live t) <;> simp [pooled, entryErase]

theorem abandoned (p : Pool) (k : ProfileKey) (a : Nat) : (p.abandon k a).entryAt? k ≠ some (.pending a) := by
  rw [entryAbandon]
  by_cases marked : p.entryAt? k = some (.pending a) <;> simp [marked]

theorem removed (p : Pool) (k : ProfileKey) (t : TunnelId) : (p.remove k t).entryAt? k ≠ some (.live t) := by
  rw [entryRemove]
  by_cases pooled : p.entryAt? k = some (.live t) <;> simp [pooled]

section
variable {p : Pool} {isOpen : TunnelId → Bool} {key k : ProfileKey} {t : TunnelId}

theorem keptRegister (entry : p.entryAt? k = some (.live t)) (opened : isOpen t = true) :
    (p.register isOpen key).1.entryAt? k = some (.live t) := by
  rw [entryRegister, if_neg, entry]
  rintro ⟨rfl, missing⟩
  simp [lookupNone missing entry] at opened

theorem keptPromote (entry : p.entryAt? k = some (.live t)) (opened : isOpen t = true) (u : TunnelId) :
    (p.promote isOpen key u).1.entryAt? k = some (.live t) := by
  rw [entryPromote, if_neg, entry]
  rintro ⟨rfl, missing⟩
  simp [lookupNone missing entry] at opened

theorem keptAbandon (entry : p.entryAt? k = some (.live t)) (a : Nat) :
    (p.abandon key a).entryAt? k = some (.live t) := by
  rw [entryAbandon, if_neg, entry]
  rintro ⟨rfl, marked⟩
  cases entry.symm.trans marked

theorem keptRemove (entry : p.entryAt? k = some (.live t)) {u : TunnelId} (other : t ≠ u) :
    (p.remove key u).entryAt? k = some (.live t) := by
  rw [entryRemove, if_neg, entry]
  rintro ⟨rfl, pooled⟩
  cases entry.symm.trans pooled
  exact other rfl

end

theorem keyedRegister {p : Pool} (keyed : p.Keyed) (isOpen : TunnelId → Bool) (k : ProfileKey) :
    (p.register isOpen k).1.Keyed := by
  simp only [register]
  split
  · exact keyed
  · exact keyedPut (p := { p with nextAttempt := p.nextAttempt + 1 }) keyed k _

theorem keyedPromote {p : Pool} (keyed : p.Keyed) (isOpen : TunnelId → Bool) (k : ProfileKey) (t : TunnelId) :
    (p.promote isOpen k t).1.Keyed := by
  unfold promote
  split
  · exact keyed
  · exact keyedPut keyed k _

theorem keyedAbandon {p : Pool} (keyed : p.Keyed) (k : ProfileKey) (a : Nat) : (p.abandon k a).Keyed := by
  unfold abandon
  split
  · exact keyedErase keyed k
  · exact keyed

theorem keyedRemove {p : Pool} (keyed : p.Keyed) (k : ProfileKey) (t : TunnelId) : (p.remove k t).Keyed := by
  unfold remove
  split
  · exact keyedErase keyed k
  · exact keyed

section
variable {p : Pool} {isOpen : TunnelId → Bool} {key k : ProfileKey} {t : TunnelId} {a : Nat} {e : PoolEntry}

theorem liveBeforeRegister (entry : (p.register isOpen key).1.entryAt? k = some (.live t)) :
    p.entryAt? k = some (.live t) := by
  rw [entryRegister] at entry
  split at entry
  · cases entry
  · exact entry

theorem pendingBeforePromote (entry : (p.promote isOpen key t).1.entryAt? k = some (.pending a)) :
    p.entryAt? k = some (.pending a) := by
  rw [entryPromote] at entry
  split at entry
  · cases entry
  · exact entry

theorem beforeAbandon (entry : (p.abandon key a).entryAt? k = some e) : p.entryAt? k = some e := by
  rw [entryAbandon] at entry
  split at entry
  · contradiction
  · exact entry

theorem beforeRemove (entry : (p.remove key t).entryAt? k = some e) : p.entryAt? k = some e := by
  rw [entryRemove] at entry
  split at entry
  · contradiction
  · exact entry

end

theorem memberEntry {p : Pool} (keyed : p.Keyed) {isOpen : TunnelId → Bool} {t : TunnelId} :
    t ∈ p.members isOpen ↔ isOpen t = true ∧ ∃ k, p.entryAt? k = some (.live t) := by
  simp only [members, List.mem_filterMap, entryMember keyed]
  constructor
  · rintro ⟨⟨k, e⟩, mem, healthy⟩
    have looked : p.lookup isOpen k = some t :=
      Option.bind_eq_some_iff.mpr ⟨e, (entryMember keyed).mpr mem, healthy⟩
    have found := lookupOpen.mp looked
    exact ⟨found.2, k, (entryMember keyed).mp found.1⟩
  · rintro ⟨healthy, k, mem⟩
    exact ⟨_, mem, by simp [PoolEntry.healthy, healthy]⟩

theorem membersNodup {p : Pool} (keyed : p.Keyed) {isOpen : TunnelId → Bool}
    (once : ∀ {j k t}, p.entryAt? j = some (.live t) → p.entryAt? k = some (.live t) → j = k) :
    (p.members isOpen).Nodup := by
  have apart := List.pairwise_map.mp keyed
  refine List.pairwise_filterMap.mpr (apart.imp_of_mem ?_)
  rintro ⟨j, d⟩ ⟨k, e⟩ before after different t first u second rfl
  have healthy : ∀ {k e}, (k, e) ∈ p.entries → e.healthy isOpen = some t → p.entryAt? k = some (.live t) := by
    intro k e mem healthy
    have looked : p.lookup isOpen k = some t :=
      Option.bind_eq_some_iff.mpr ⟨e, (entryMember keyed).mpr mem, healthy⟩
    exact (lookupOpen.mp looked).1
  exact different (once (healthy before first) (healthy after second))

end TunnelRelay.Pool
