import TunnelRelay.Proofs.Pool.Mirrors

/-! Keys do not interfere. A run without the steps of other keys is a run, and shows of the key
what the whole run shows of it. Two steps of different keys can be taken in either order, and the
run goes on as before. -/
namespace TunnelRelay

namespace Service

def Stage.result? : Stage → Option (Except Failure TunnelId)
  | done result => some result
  | _ => none

def result? (v : Service) (r : Nat) : Option (Except Failure TunnelId) := (v.stage? r).bind Stage.result?

end Service

namespace Shared
open Service (Request Stage Event)

variable {s : Sorting} {k : ProfileKey} {c c' : Shared}

theorem actionsPrefix (s : Sorting) (k : ProfileKey) (made : Nat) (before rest : List Action) :
    s.actionsOf k made before <+: s.actionsOf k made (before ++ rest) := by
  induction before generalizing made with
  | nil => exact List.nil_prefix
  | cons a before ih =>
    have later := ih (made + Sorting.made a)
    simp only [List.cons_append, Sorting.actionsOf]
    split
    · exact (List.prefix_cons_inj _).mpr later
    · exact later

theorem runOnly {actions : List Action} (k : ProfileKey) (ran : c.run actions = some c') (sorted : Sorted s c)
    (fits : Fits s c actions) :
    (s.only k c).run (s.actionsOf k c.service.tunnels.length actions) = some (s.only k c') := by
  induction actions generalizing c with
  | nil =>
    cases ran
    rfl
  | cons a rest ih =>
    obtain ⟨next, moved, ran⟩ := Option.bind_eq_some_iff.mp ran
    obtain ⟨allots, fits⟩ := fits
    have later := ih ran (sortedStep moved sorted allots) (fits next moved)
    rw [tunnelsMade moved] at later
    simp only [Sorting.actionsOf]
    split
    · rename_i own
      have taken := Sorting.stepOwn sorted allots own
      rw [moved] at taken
      exact runStep taken later
    · rename_i apart
      rw [← Sorting.stepOther sorted allots apart moved]
      exact later

theorem sortedRun {before rest : List Action} (ran : c.run before = some c') (sorted : Sorted s c)
    (fits : Fits s c (before ++ rest)) : Sorted s c' ∧ Fits s c before ∧ Fits s c' rest := by
  induction before generalizing c with
  | nil =>
    cases ran
    exact ⟨sorted, trivial, fits⟩
  | cons a before ih =>
    obtain ⟨next, moved, ran⟩ := Option.bind_eq_some_iff.mp ran
    obtain ⟨allots, fits⟩ := fits
    obtain ⟨sorted, first, second⟩ := ih ran (sortedStep moved sorted allots) (fits next moved)
    refine ⟨sorted, ⟨allots, fun other here => ?_⟩, second⟩
    cases moved.symm.trans here
    exact first

structure Alike (s : Sorting) (k : ProfileKey) (c d : Shared) : Prop where
  entry : d.service.pool.entryAt? k = (c.service.pool.entryAt? k).map (s.entryOf k)
  opens : ∀ t, s.tunnel t = k → d.service.isOpen (s.tunnelAt k t) = c.service.isOpen t
  requests : d.service.requests.length = s.requestAt k c.service.requests.length
  stages : ∀ r, s.request r = k → d.service.stage? (s.requestAt k r) = (c.service.stage? r).map (s.stageOf k)
  events : d.service.published =
    (c.service.published.filter fun e => s.tunnel e.tunnel = k).map (s.eventOf k)

theorem alikeOnly (s : Sorting) (k : ProfileKey) (c : Shared) : Alike s k c (s.only k c) where
  entry := Sorting.entryOwn s k c.service.pool
  opens t own := Sorting.openOwn own c.service
  requests := by
    simp only [Sorting.onlyService, Sorting.serviceOf, List.length_map, Labels.pickLength]
    rfl
  stages r own := by
    simp only [Sorting.onlyService, Service.stage?, Sorting.requestOwn own, Option.map_map]
    rfl
  events := rfl

structure Unchanged (owner : Labels) (c d : Shared) : Prop where
  pool : (d.service.pool.members d.service.isOpen).Perm (c.service.pool.members c.service.isOpen)
  results : ∀ r, d.service.result? r = c.service.result? r
  events : ∀ k, (d.service.published.filter fun e => owner e.tunnel = k) =
    c.service.published.filter fun e => owner e.tunnel = k

theorem memberOnly (sorted : Sorted s c) (t : TunnelId) :
    t ∈ c.service.pool.members c.service.isOpen ↔
      (s.only (s.tunnel t) c).service.isOpen (s.tunnelAt (s.tunnel t) t) = true ∧
        (s.only (s.tunnel t) c).service.pool.entryAt? (s.tunnel t) = some (.live (s.tunnelAt (s.tunnel t) t)) := by
  rw [Pool.memberEntry sorted.keyed, Sorting.onlyService, Sorting.servicePool, Sorting.openOwn rfl,
    Sorting.pooledOwn (sorted.lives _) rfl]
  refine and_congr_right fun _ => ⟨?_, fun entry => ⟨_, entry⟩⟩
  rintro ⟨k, entry⟩
  exact (sorted.lives k t entry).symm ▸ entry

theorem membersSorted (sorted : Sorted s c) : (c.service.pool.members c.service.isOpen).Nodup :=
  Pool.membersNodup sorted.keyed fun first second => (sorted.lives _ _ first).symm.trans (sorted.lives _ _ second)

theorem resultOnly {r : Nat} (own : s.request r = k) (c : Shared) :
    (s.only k c).service.result? (s.requestAt k r) = (c.service.result? r).map fun x => x.map (s.tunnelAt k) := by
  simp only [Service.result?, Service.stage?, Sorting.onlyService, Sorting.requestOwn own]
  cases c.service.requests[r]? with
  | none => rfl
  | some x =>
    obtain ⟨p, stage, released, gone⟩ := x
    cases stage with
    | done result => cases result <;> rfl
    | _ => rfl

theorem resultHanded (sorted : Sorted s c) {r : Nat} {t : TunnelId}
    (told : c.service.result? r = some (.ok t)) : s.tunnel t = s.request r := by
  simp only [Service.result?, Service.stage?, Option.bind_eq_some_iff, Option.map_eq_some_iff] at told
  obtain ⟨stage, ⟨x, found, rfl⟩, told⟩ := told
  refine (sorted.handed r x t found ?_).trans (sorted.requests r x found).symm
  cases at' : x.stage <;> rw [at'] at told <;> cases told
  rfl

theorem resultApart {x y : Option (Except Failure TunnelId)} (left : ∀ t, x = some (.ok t) → s.tunnel t = k)
    (right : ∀ t, y = some (.ok t) → s.tunnel t = k)
    (same : (x.map fun x => x.map (s.tunnelAt k)) = y.map fun x => x.map (s.tunnelAt k)) : x = y := by
  rcases x with - | (e | t) <;> rcases y with - | (e' | u)
  case some.ok.some.ok =>
    have places : s.tunnelAt k t = s.tunnelAt k u := Except.ok.inj (Option.some.inj same)
    rw [(Labels.placeInjective (left t rfl) (right u rfl)).mp places]
  all_goals cases same <;> rfl

theorem eventApart {d e : Event} (left : s.tunnel d.tunnel = k) (right : s.tunnel e.tunnel = k)
    (same : s.eventOf k d = s.eventOf k e) : d = e := by
  have places : s.tunnelAt k d.tunnel = s.tunnelAt k e.tunnel := by
    rw [← Sorting.eventTunnel, ← Sorting.eventTunnel, same]
  have tunnel := (Labels.placeInjective left right).mp places
  cases d <;> cases e <;> cases tunnel
  · rfl
  · contradiction
  · contradiction
  · rfl

theorem eventsApart {l m : List Event} (left : ∀ e ∈ l, s.tunnel e.tunnel = k) (right : ∀ e ∈ m, s.tunnel e.tunnel = k)
    (same : l.map (s.eventOf k) = m.map (s.eventOf k)) : l = m := by
  induction l generalizing m with
  | nil => exact (List.map_eq_nil_iff.mp same.symm).symm
  | cons d l ih =>
    cases m with
    | nil => cases same
    | cons e m =>
      obtain ⟨first, rest⟩ := List.cons.inj same
      rw [eventApart (left d List.mem_cons_self) (right e List.mem_cons_self) first,
        ih (fun e mem => left e (List.mem_cons_of_mem _ mem)) (fun e mem => right e (List.mem_cons_of_mem _ mem)) rest]

theorem mirrorUnchanged {d : Shared} {s' : Sorting} (mirror : Mirror s s' c d) (tunnels : s'.tunnel = s.tunnel)
    (requests : s'.request = s.request) : Unchanged s.tunnel c d := by
  obtain ⟨sorted, sorted', same⟩ := mirror
  have place (k : ProfileKey) : s'.tunnelAt k = s.tunnelAt k := by
    funext t
    simp only [Sorting.tunnelAt, tunnels]
  refine ⟨?pool, fun r => ?results, fun k => ?events⟩
  case pool =>
    refine (List.perm_ext_iff_of_nodup (membersSorted sorted') (membersSorted sorted)).mpr fun t => ?_
    rw [memberOnly sorted, memberOnly sorted', same, tunnels, place]
  case results =>
    have number : s'.requestAt (s.request r) r = s.requestAt (s.request r) r := by
      simp only [Sorting.requestAt, requests]
    have mine := resultOnly (congrFun requests r) d
    rw [same, number, place, resultOnly rfl] at mine
    refine resultApart (fun t told => ?_) (fun t told => ?_) mine.symm
    · rw [← tunnels, resultHanded sorted' told, requests]
    · exact resultHanded sorted told
  case events =>
    have event : s'.eventOf k = s.eventOf k := by
      funext e
      cases e <;> simp only [Sorting.eventOf, place]
    have published := congrArg (fun c => c.service.published) (same k)
    simp only [Sorting.only, Sorting.serviceOf, event, tunnels] at published
    refine eventsApart (fun e mem => ?_) (fun e mem => ?_) published
    · exact of_decide_eq_true (List.mem_filter.mp mem).2
    · exact of_decide_eq_true (List.mem_filter.mp mem).2

/- Two steps that make something new each give it the other one's number in the other order. Neither
a new tunnel nor a new request can be seen yet. -/

theorem appendedAt {α : Type} (l : List α) (x : α) (i : Nat) :
    (l ++ [x])[i]? = if i = l.length then some x else l[i]? := by
  split
  · rename_i last
    rw [last, List.getElem?_concat_length]
  · rename_i other
    rcases Nat.lt_or_gt_of_ne other with known | beyond
    · exact List.getElem?_append_left known
    · rw [List.getElem?_eq_none (Nat.le_of_lt beyond), List.getElem?_eq_none]
      simpa using Nat.succ_le_of_lt beyond

theorem openAppend {y : Tunnel ProfileKey} (opened : y.life.closed = false) (v : Service) (t : TunnelId) :
    ({ v with tunnels := v.tunnels ++ [y] } : Service).isOpen t = (v.isOpen t || t == v.tunnels.length) := by
  simp only [Service.isOpen, appendedAt]
  by_cases last : t = v.tunnels.length
  · simp [last, opened]
  · simp [last]

section
variable {d e f g h : Shared} {a b : Action} (first : d.step a = some e) (second : e.step b = some f)
  (second' : d.step b = some g) (first' : g.step a = some h)
include first second second' first'

theorem makesUnchanged (makes : Sorting.made a ≠ 0 ∧ Sorting.made b ≠ 0) (owner : Labels) : Unchanged owner f h := by
  cases a with
  | make admission bufferSize statistics =>
    cases b with
    | make admission' bufferSize' statistics' =>
      cases first
      cases second
      cases second'
      cases first'
      refine ⟨List.Perm.of_eq (congrArg (Pool.members _) ?_), fun r => rfl, fun k => rfl⟩
      funext t
      refine (openAppend rfl _ t).trans (.trans ?_ (openAppend rfl _ t).symm)
      simp only [List.length_append]
      exact congrArg (· || _) ((openAppend rfl d.service t).trans (openAppend rfl d.service t).symm)
    | _ => exact absurd rfl makes.2
  | _ => exact absurd rfl makes.1

end

theorem resultAsked (v : Service) (p : Profile) (r : Nat) : (v.addRequest p).1.result? r = v.result? r := by
  simp only [Service.result?, Service.stage?, Service.addRequest, appendedAt]
  by_cases last : r = v.requests.length
  · simp [last, Service.Stage.result?]
  · simp [last]

theorem asksUnchanged {d e f g h : Shared} {p q : Profile} (first : d.step (.ask p) = some e)
    (second : e.step (.ask q) = some f) (second' : d.step (.ask q) = some g) (first' : g.step (.ask p) = some h)
    (owner : Labels) : Unchanged owner f h := by
  cases first
  cases second
  cases second'
  cases first'
  refine ⟨.refl _, fun r => ?_, fun k => rfl⟩
  simp only [resultAsked]

theorem exchangedUnchanged {d e f g h : Shared} {a b : Action} {s' : Sorting} (first : d.step a = some e)
    (second : e.step b = some f) (exchanged : Exchanged s s' d a b f g h) : Unchanged s.tunnel f h := by
  by_cases makes : Sorting.made a ≠ 0 ∧ Sorting.made b ≠ 0
  · exact makesUnchanged first second exchanged.second exchanged.first makes s.tunnel
  by_cases asks : (∃ p, a = .ask p) ∧ ∃ p, b = .ask p
  · obtain ⟨⟨p, rfl⟩, q, rfl⟩ := asks
    exact asksUnchanged first second exchanged.second exchanged.first s.tunnel
  refine mirrorUnchanged exchanged.mirror (exchanged.tunnels (by omega)) (exchanged.requests ?_)
  by_cases asked : ∃ p, a = .ask p
  · exact .inr fun q here => asks ⟨asked, q, here⟩
  · exact .inl fun p here => asked ⟨p, here⟩

theorem freshOwned (fresh : c.Fresh) : ∃ owner, c.Owned owner := by
  have one (t : TunnelId) : ∃ k, ∀ (r : Nat) x, (r, t) ∈ c.deliveries → c.service.requests[r]? = some x →
      k = x.profile.key := by
    by_cases handed : ∃ (r : Nat) (x : Request), (r, t) ∈ c.deliveries ∧ c.service.requests[r]? = some x
    · obtain ⟨r, x, mem, found⟩ := handed
      refine ⟨x.profile.key, fun q y mem' found' => ?_⟩
      cases freshSame fresh mem mem'
      cases found.symm.trans found'
      rfl
    · exact ⟨desktop.key, fun r x mem found => absurd ⟨r, x, mem, found⟩ handed⟩
  choose owner keys using one
  exact ⟨owner, fun r t x => keys t r x⟩

/- A run can be sorted by keys, given the key of each tunnel. Without the steps of other keys it is
a run, which after each step shows the same of the key as the whole run. Two adjacent steps of
different keys can be taken in the other order without a difference that can be seen, and the run
can go on with the same steps, after which it shows the same of every key. -/
theorem keysIndependent {actions : List Action} {c : Shared} (ran : run {} actions = some c) {owner : Labels}
    (owned : c.Owned owner) :
    ∃ s : Sorting, s.tunnel = owner ∧ Fits s {} actions ∧
      (∀ k before rest, actions = before ++ rest →
        s.actionsOf k 0 before <+: s.actionsOf k 0 actions ∧
          ∃ d e, run {} before = some d ∧ run {} (s.actionsOf k 0 before) = some e ∧ Alike s k d e) ∧
      ∀ before a b rest d e f, actions = before ++ a :: b :: rest → run {} before = some d →
        d.step a = some e → e.step b = some f →
        s.keyOf d.service.tunnels.length a ≠ s.keyOf e.service.tunnels.length b →
        ∃ g h, d.step b = some g ∧ g.step a = some h ∧ Unchanged owner f h ∧
          ∃ s' rest' c', h.run rest' = some c' ∧ Fits s' {} (before ++ b :: a :: rest') ∧
            Counterparts s s' f.service.tunnels.length h.service.tunnels.length rest rest' ∧
            ∀ k, ∃ e, Alike s k c e ∧ Alike s' k c' e := by
  -- Labels that no step gives out do not matter.
  let start : Sorting := ⟨owner, owner, owner, owner⟩
  obtain ⟨s, (tunnels : s.tunnel = owner), -, fits⟩ := fitting ⟨[], rfl⟩ ran (sortedEmpty start) owned
  refine ⟨s, tunnels, fits, ?alone, ?swap⟩
  case alone =>
    rintro k before rest rfl
    refine ⟨actionsPrefix s k 0 before rest, ?_⟩
    rw [runAppend] at ran
    obtain ⟨d, ran, -⟩ := Option.bind_eq_some_iff.mp ran
    obtain ⟨-, fits, -⟩ := sortedRun ran (sortedEmpty s) fits
    exact ⟨d, s.only k d, ran, runOnly k ran (sortedEmpty s) fits, alikeOnly s k d⟩
  case swap =>
    rintro before a b rest d e f rfl before' first second apart
    obtain ⟨sorted, fits₀, allots, fits⟩ := sortedRun before' (sortedEmpty s) fits
    obtain ⟨allots', fits⟩ := fits e first
    have reachable : d.Reachable := ⟨before, before'⟩
    obtain ⟨s₁, g, h, exchanged⟩ := exchanged reachable sorted first second allots allots' apart
    have after : f.run rest = some c := runSplit (runSplit ran before') (runStep first (runStep second (runNil f)))
    have reachable₁ := reachableStep (reachableStep reachable first) second
    have reachable₂ := reachableStep (reachableStep reachable exchanged.second) exchanged.first
    obtain ⟨s', rest', c', ran', extends', fits', counterparts, mirror⟩ :=
      mirrorRun reachable₁ reachable₂ after (fits f second) exchanged.mirror
    have unchanged := exchangedUnchanged first second exchanged
    have ran₂ : run {} (before ++ [b, a]) = some h := by
      rw [runAppend, before']
      exact runStep exchanged.second (runStep exchanged.first (runNil h))
    have fits₁ := fitsExtends ⟨[], rfl⟩ before' (sortedEmpty s) fits₀ exchanged.extends'
    have fits₂ := fitsExtends ⟨[], rfl⟩ ran₂ (sortedEmpty s₁) (fitsAppend before' fits₁ exchanged.fits) extends'
    have whole := fitsAppend ran₂ fits₂ fits'
    rw [List.append_assoc] at whole
    exact ⟨g, h, exchanged.second, exchanged.first, tunnels ▸ unchanged, s', rest', c', ran', whole, counterparts,
      fun k => ⟨s.only k c, alikeOnly s k c, mirror.same k ▸ alikeOnly s' k c'⟩⟩

theorem keysIndependentRivals :
    let owner : Labels := fun t => if t = 0 then shell.key else desktop.key
    let turns (n : Nat) : List Action := (List.replicate n [.advance 1 false, .advance 0 false]).flatten
    let actions := [.ask desktop, .ask shell] ++ turns 3 ++ making 1 0 ++ making 0 1 ++ turns 3
    (after actions).service.published = [.created 0, .created 1] ∧
    ∃ s : Sorting, s.tunnel = owner ∧
      (∃ e, run {} (s.actionsOf desktop.key 0 actions) = some e ∧ e.service.published = [.created 0] ∧
        e.service.pool.entryAt? desktop.key = some (.live 0)) ∧
      ∃ g h, step {} (.ask shell) = some g ∧ g.step (.ask desktop) = some h ∧
        Unchanged owner (after [.ask desktop, .ask shell]) h ∧
        ∃ s' rest c, h.run rest = some c ∧ ∀ k, ∃ e, Alike s k (after actions) e ∧ Alike s' k c e := by
  intro owner turns actions
  have owned : (after actions).Owned owner := by
    intro r t x mem found
    have deliveries : (after actions).deliveries = [(1, 0), (0, 1)] := by decide
    have keys : (after actions).service.requests.map (·.profile.key) = [desktop.key, shell.key] := by decide
    have key : [desktop.key, shell.key][r]? = some x.profile.key := by
      rw [← keys, List.getElem?_map, found]
      rfl
    rw [deliveries] at mem
    rcases List.mem_pair.mp mem with here | here <;> cases here <;> exact Option.some.inj key
  have ran : run {} actions = some (after actions) := by rfl
  obtain ⟨s, tunnels, -, alone, swap⟩ := keysIndependent ran owned
  have published : (after actions).service.published = [.created 0, .created 1] := by decide
  have entry : (after actions).service.pool.entryAt? desktop.key = some (.live 1) := by decide
  have place : s.tunnelAt desktop.key 1 = 0 := by
    rw [Sorting.tunnelAt, tunnels]
    decide
  refine ⟨published, s, tunnels, ?_, ?_⟩
  · obtain ⟨-, d, e, ran', alone, alike⟩ := alone desktop.key actions [] (List.append_nil _).symm
    cases ran.symm.trans ran'
    refine ⟨e, alone, ?_, ?_⟩
    · have own : ([.created 0, .created 1] : List Event).filter (fun e => owner e.tunnel = desktop.key) =
          [.created 1] := by decide
      rw [alike.events, published, tunnels, own, List.map_singleton, Sorting.eventOf, place]
    · rw [alike.entry, entry, Option.map_some, Sorting.entryOf, place]
  · have apart : desktop.key ≠ shell.key := by decide
    obtain ⟨g, h, moved, moved', unchanged, s', rest, c, ran, -, -, alike⟩ :=
      swap [] (.ask desktop) (.ask shell) _ {} _ (after [.ask desktop, .ask shell]) rfl rfl rfl rfl apart
    exact ⟨g, h, moved, moved', unchanged, s', rest, c, ran, alike⟩

end Shared
end TunnelRelay
