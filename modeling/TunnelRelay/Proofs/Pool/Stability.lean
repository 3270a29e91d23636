import TunnelRelay.Proofs.Pool.Representation

/-! The entry of an open tunnel stays. No step of another attempt or of another
tunnel's end replaces or removes it, so that whoever looks its key up gets that
tunnel and makes none. -/
namespace TunnelRelay.Shared
open Service (Request Stage)

theorem entryStays {c c' : Shared} {a : Action} (step : Step c a c') (orderly : Orderly c) {k : ProfileKey}
    {t : TunnelId} (entry : c.service.pool.entryAt? k = some (.live t)) (opened : c'.service.isOpen t = true) :
    c'.service.pool.entryAt? k = some (.live t) := by
  cases step with
  | register => exact Pool.keptRegister entry opened
  | promote => exact Pool.keptPromote entry opened _
  | settle => exact Pool.keptAbandon entry _
  | giveUp => exact Pool.keptAbandon entry _
  | @overdue _ _ _ u y _ _ tunnel closed =>
    refine Pool.keptRemove entry ?_
    rintro rfl
    obtain ⟨l, known, still⟩ := Service.isOpenLife.mp opened
    cases (livedSelf tunnel y.life).symm.trans known
    simp [closed] at still
  | @forget _ d _ _ _ found at' =>
    refine Pool.keptRemove entry ?_
    rintro rfl
    have closed := pastClosed orderly found (by simp [at'])
    have still : c.service.isOpen d.tunnel = true := opened
    simp [closed] at still
  | _ => exact entry

structure Pooled (k : ProfileKey) (t : TunnelId) (c : Shared) : Prop where
  orderly : Orderly c
  known : ∃ l, c.service.life? t = some l
  entry : c.service.isOpen t = true → c.service.pool.entryAt? k = some (.live t)

theorem pooledStep {c c' : Shared} {a : Action} {k : ProfileKey} {t : TunnelId} (step : Step c a c')
    (pooled : Pooled k t c) : Pooled k t c' := by
  obtain ⟨l, found⟩ := pooled.known
  obtain ⟨l', found', -⟩ := lifeGrows step found
  refine ⟨orderlyStep step pooled.orderly, ⟨l', found'⟩, fun opened => ?_⟩
  exact entryStays step pooled.orderly (pooled.entry (openBefore step opened found)) opened

theorem pooledRun {c c' : Shared} {actions : List Action} {k : ProfileKey} {t : TunnelId}
    (reachable : c.Reachable) (entry : c.service.pool.entryAt? k = some (.live t))
    (ran : c.run actions = some c') : Pooled k t c' := by
  obtain ⟨r, x, mem, -⟩ := rootedReachable reachable k t entry
  have known := handedLife (handedReachable reachable) mem
  exact runKeeps pooledStep ⟨orderlyReachable reachable, known, fun _ => entry⟩ ran

theorem oneKey {c : Shared} (reachable : c.Reachable) (fresh : c.Fresh) {j k : ProfileKey} {t : TunnelId}
    (first : c.service.pool.entryAt? j = some (.live t)) (second : c.service.pool.entryAt? k = some (.live t)) :
    j = k := by
  obtain ⟨q, x, mem, found, key, -⟩ := rootedReachable reachable j t first
  obtain ⟨r, y, mem', found', key', -⟩ := rootedReachable reachable k t second
  cases freshSame fresh mem mem'
  cases found.symm.trans found'
  exact key.symm.trans key'

theorem membersOnce {c : Shared} (reachable : c.Reachable) (fresh : c.Fresh) :
    (c.service.pool.members c.service.isOpen).Nodup :=
  Pool.membersNodup (keyedReachable reachable) (oneKey reachable fresh)

theorem returnedUnhanded {c c' : Shared} {actions : List Action} {q : Nat} {y : Request}
    {result : Except Failure TunnelId} (found : c.service.requests[q]? = some y) (returned : y.stage = .done result)
    (unhanded : ∀ u, (q, u) ∉ c.deliveries) (ran : c.run actions = some c') :
    (∃ z, c'.service.requests[q]? = some z ∧ z.stage = .done result) ∧ ∀ u, (q, u) ∉ c'.deliveries := by
  refine runKeeps (P := fun d => (∃ z, d.service.requests[q]? = some z ∧ z.stage = .done result) ∧
    ∀ u, (q, u) ∉ d.deliveries) ?_ ⟨⟨y, found, returned⟩, unhanded⟩ ran
  rintro c c' a step ⟨⟨z, known, finished⟩, none'⟩
  obtain ⟨z', known', grows⟩ := requestGrows step known
  refine ⟨⟨z', known', grows.returned result finished⟩, fun u mem => ?_⟩
  cases step with
  | deliver _ _ waiting at' =>
    rcases List.mem_append.mp mem with old | new
    · exact none' u old
    · cases List.mem_singleton.mp new
      cases waiting.symm.trans known
      simp [finished] at at'
  | _ => exact none' u mem

theorem reuse {c : Shared} (reachable : c.Reachable) {q : Nat} {y : Request} {t : TunnelId}
    (found : c.service.requests[q]? = some y) (at' : y.stage = .looking)
    (pooled : c.service.pool.lookup c.service.isOpen y.profile.key = some t) (b : Bool) :
    ∃ c', c.step (.advance q b) = some c' ∧ c'.service.pool = c.service.pool ∧
      ∀ actions c'', c'.run actions = some c'' →
        (∃ z, c''.service.requests[q]? = some z ∧ z.stage = .done (.ok t)) ∧ ∀ u, (q, u) ∉ c''.deliveries := by
  have unhanded : ∀ u, (q, u) ∉ c.deliveries := by
    intro u mem
    obtain ⟨x, known, tunnel⟩ := (handedReachable reachable).kept q u mem
    cases found.symm.trans known
    simp [at', Stage.tunnel?] at tunnel
  refine ⟨_, hitStep found at' pooled b, rfl, fun actions c'' ran => ?_⟩
  exact returnedUnhanded (c := { c with service := staged c.service q y (.done (.ok t)) }) (setSelf found _) rfl
    unhanded ran

theorem promotedEntry {c c' : Shared} {r : Nat} {b : Bool} {x : Request} {a : Nat} {t : TunnelId}
    (found : c.service.requests[r]? = some x) (at' : x.stage = .promoting a t)
    (won : (c.service.pool.promote c.service.isOpen x.profile.key t).2 = true)
    (moved : c.step (.advance r b) = some c') : c'.service.pool.entryAt? x.profile.key = some (.live t) := by
  have missing := (Pool.promoteWins ..).mp won
  cases (promoteStep found at' b).symm.trans moved
  exact (Pool.entryPromote ..).trans (if_pos ⟨rfl, missing⟩)

/- From its promotion until it is closed a tunnel is the one of its key: the pool
reports it once and no other for the key, and a request that looks the key up
returns with it and is never handed another. -/
theorem pooledUntilClosed {c c' c'' : Shared} {r : Nat} {b : Bool} {x : Request} {a : Nat} {t : TunnelId}
    {later : List Action} (reachable : c.Reachable) (found : c.service.requests[r]? = some x)
    (at' : x.stage = .promoting a t)
    (won : (c.service.pool.promote c.service.isOpen x.profile.key t).2 = true)
    (moved : c.step (.advance r b) = some c') (ran : c'.run later = some c'')
    (opened : c''.service.isOpen t = true) :
    c''.service.pool.entryAt? x.profile.key = some (.live t) ∧
    (c''.Fresh → (c''.service.pool.members c''.service.isOpen).count t = 1) ∧
    (∀ u, (x.profile.key, .live u) ∈ c''.service.pool.entries → u = t) ∧
    (∀ q y, c''.service.requests[q]? = some y → y.stage = .looking → y.profile.key = x.profile.key → ∀ cancelled,
      ∃ d, c''.step (.advance q cancelled) = some d ∧ d.service.pool = c''.service.pool ∧
        ∀ actions e, d.run actions = some e →
          (∃ z, e.service.requests[q]? = some z ∧ z.stage = .done (.ok t)) ∧ ∀ u, (q, u) ∉ e.deliveries) := by
  have promoted := promotedEntry found at' won moved
  have before : c'.Reachable := reachableStep reachable moved
  have after : c''.Reachable := reachableRun before ran
  have keyed := keyedReachable after
  have entry := (pooledRun before promoted ran).entry opened
  refine ⟨entry, fun fresh => ?once, fun u mem => ?only, fun q y known looking key cancelled => ?hits⟩
  case once =>
    exact List.count_eq_one_of_mem (membersOnce after fresh) ((Pool.memberEntry keyed).mpr ⟨opened, _, entry⟩)
  case only =>
    cases entry.symm.trans ((Pool.entryMember keyed).mpr mem)
    rfl
  case hits =>
    exact reuse after known looking (key ▸ Pool.lookupOpen.mpr ⟨entry, opened⟩) cancelled

theorem pooledUntilClosedRivals :
    let before := asking desktop 0 ++ asking desktop 1 ++ making 0 0
    let later : List Action := .advance 0 false :: making 1 1 ++
      [.advance 1 false, .advance 1 false, .ask desktop, .advance 2 false]
    let c := after (before ++ .advance 0 false :: later)
    c.service.pool.entryAt? desktop.key = some (.live 0) ∧
      (c.service.pool.members c.service.isOpen).count 0 = 1 ∧
      ∃ d, c.step (.advance 2 false) = some d ∧
        ∀ actions e, d.run actions = some e → ∃ z, e.service.requests[2]? = some z ∧ z.stage = .done (.ok 0) := by
  intro before later c
  have ran : (after (before ++ [.advance 0 false])).run later = some c := rfl
  have stable := pooledUntilClosed (c := after before) (r := 0) (b := false) (a := 0) (t := 0)
    (afterReachable rfl) rfl rfl (by decide) rfl ran (by decide)
  obtain ⟨d, moved, -, returns⟩ := stable.2.2.2 2 _ rfl rfl rfl false
  exact ⟨stable.1, stable.2.1 (by decide), d, moved, fun actions e ran => (returns actions e ran).1⟩

end TunnelRelay.Shared
