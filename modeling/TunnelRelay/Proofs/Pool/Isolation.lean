import TunnelRelay.Proofs.Pool.Separation

/-! Steps of a shared service and keys. A step of a key is the same step of what belongs to that
key, and can be taken in the one state exactly if it can in the other; a step of another key
changes nothing that belongs to it. -/
namespace TunnelRelay.Sorting
open Service (Request Stage Event)
open Shared (Action Sorted Allots)

variable {s : Sorting} {k : ProfileKey} {c : Shared}

def Publishes (v w : Service) : Prop := ∃ fresh, w.published = v.published ++ fresh

theorem publishesSame {v w : Service} (same : w.published = v.published) : Publishes v w :=
  ⟨[], by simp [same]⟩

theorem onlyWithService {w : Service} (more : Publishes c.service w) :
    s.only k (c.withService w) = (s.only k c).withService (s.serviceOf k w) := by
  obtain ⟨fresh, more⟩ := more
  have events : (s.serviceOf k w).published.drop (s.serviceOf k c.service).published.length =
      (fresh.filter fun e => s.tunnel e.tunnel = k).map (s.eventOf k) := by
    simp [serviceOf, more]
  have service : (s.only k c).service = s.serviceOf k c.service := rfl
  have references : (s.only k c).references = (c.references.filter fun t => s.tunnel t = k).map (s.tunnelAt k) := rfl
  simp only [Shared.withService, service, events, references]
  simp only [only, more, List.drop_left, List.filter_append, List.map_append, List.filter_map, List.map_map,
    Function.comp_def, eventTunnel]

theorem onlyWithServiceSame {w : Service} (more : Publishes c.service w)
    (same : s.serviceOf k w = s.serviceOf k c.service) : s.only k (c.withService w) = s.only k c := by
  rw [onlyWithService more, same]
  exact Shared.withServiceSame rfl

theorem watchPublished {v : Service} {k : ProfileKey} {t : TunnelId} {w : Service × List ProfileKey}
    (watched : v.watch k t = some w) : w.1.published = v.published := by
  simp only [Service.watch, bind, Option.bind_eq_some_iff] at watched
  obtain ⟨y, -, last⟩ := watched
  cases last
  exact setLifePublished ..

theorem advancePublishes {v w : Service} {b : Bool} {r : Nat} (moved : v.advance b r = some w) : Publishes v w := by
  simp only [Service.advance, bind, Option.bind_eq_some_iff] at moved
  obtain ⟨x, found, moved⟩ := moved
  split at moved
  · split at moved
    · cases moved
      exact publishesSame (setStagePublished ..)
    · split at moved <;> cases moved <;> exact publishesSame (setStagePublished ..)
  · split at moved <;> cases moved <;> exact publishesSame (setStagePublished ..)
  · cases moved
    exact publishesSame (setStagePublished ..)
  · cases moved
  · cases moved
    exact publishesSame (setStagePublished ..)
  · cases moved
    exact publishesSame (setStagePublished ..)
  · cases moved
    exact ⟨_, setStagePublished ..⟩
  · simp only [Option.bind_eq_some_iff] at moved
    obtain ⟨⟨w, due⟩, watched, moved⟩ := moved
    split at moved <;> cases moved
    · exact publishesSame ((setStagePublished ..).trans (watchPublished watched))
    · exact publishesSame ((setStagePublished ..).trans (watchPublished watched))
  · cases moved
    exact ⟨_, setStagePublished ..⟩
  · cases moved
  · cases moved

theorem createdPublishes {v w : Service} {r : Nat} {outcome : Except Failure TunnelId}
    (moved : v.created r outcome = some w) : Publishes v w := by
  simp only [Service.created, bind, Option.bind_eq_some_iff] at moved
  obtain ⟨x, found, moved⟩ := moved
  split at moved <;> cases moved <;> exact publishesSame (setStagePublished ..)

theorem abortPublishes {v w : Service} {r : Nat} (moved : v.abort r = some w) : Publishes v w := by
  simp only [Service.abort, bind, Option.bind_eq_some_iff] at moved
  obtain ⟨x, found, moved⟩ := moved
  split at moved <;> cases moved
  exact publishesSame (setStagePublished ..)

theorem changeOwn {t : TunnelId} (own : s.tunnel t = k) (c : Shared)
    (f : Tunnel ProfileKey → Option (Tunnel ProfileKey)) :
    (s.only k c).changeTunnel (s.tunnelAt k t) f = (c.changeTunnel t f).map (s.only k) := by
  have service : (s.only k c).service = s.serviceOf k c.service := rfl
  simp only [Shared.changeTunnel, service, tunnelOwn own, bind]
  cases c.service.tunnels[t]? with
  | none => rfl
  | some y =>
    simp only [Option.bind_some]
    cases f y with
    | none => rfl
    | some y' => simp only [Option.bind_some, Option.map_some, only, setTunnelOwn own]

theorem changeOther {t : TunnelId} (apart : s.tunnel t ≠ k) {c' : Shared}
    {f : Tunnel ProfileKey → Option (Tunnel ProfileKey)} (moved : c.changeTunnel t f = some c') :
    s.only k c' = s.only k c := by
  simp only [Shared.changeTunnel, bind, Option.bind_eq_some_iff] at moved
  obtain ⟨y, -, y', -, last⟩ := moved
  cases last
  simp only [only, setTunnelOther apart]

theorem beginOwn {t : TunnelId} (own : s.tunnel t = k) (label : s.teardown c.teardowns.length = s.tunnel t)
    (borrowed : Bool) : s.only k (c.begin t borrowed) = (s.only k c).begin (s.tunnelAt k t) borrowed := by
  simp only [only, Shared.begin, Labels.pickAppend, if_pos (label.trans own), List.map_append]
  rfl

theorem beginOther {t : TunnelId} (apart : s.tunnel t ≠ k) (label : s.teardown c.teardowns.length = s.tunnel t)
    (borrowed : Bool) : s.only k (c.begin t borrowed) = s.only k c := by
  have other : s.teardown c.teardowns.length ≠ k := label ▸ apart
  simp only [only, Shared.begin, Labels.pickAppend, if_neg other, List.append_nil]

theorem referOwn {t : TunnelId} (own : s.tunnel t = k) (c : Shared) :
    s.only k { c with references := c.references ++ [t] } =
      { s.only k c with references := (s.only k c).references ++ [s.tunnelAt k t] } := by
  simp [only, List.filter_append, own]

theorem referOther {t : TunnelId} (apart : s.tunnel t ≠ k) (c : Shared) :
    s.only k { c with references := c.references ++ [t] } = s.only k c := by
  simp [only, List.filter_append, apart]

theorem eraseReference {t : TunnelId} (own : s.tunnel t = k) (l : List TunnelId) :
    ((l.erase t).filter fun u => s.tunnel u = k).map (s.tunnelAt k) =
      ((l.filter fun u => s.tunnel u = k).map (s.tunnelAt k)).erase (s.tunnelAt k t) := by
  induction l with
  | nil => rfl
  | cons u l ih =>
    by_cases same : u = t
    · subst same
      simp [own]
    · by_cases here : s.tunnel u = k
      · have apart : s.tunnelAt k u ≠ s.tunnelAt k t := fun equal => same ((sameTunnel own here).mp equal)
        simp [same, here, apart, ih]
      · simp [same, here, ih]

theorem eraseOtherReference {t : TunnelId} (apart : s.tunnel t ≠ k) (l : List TunnelId) :
    ((l.erase t).filter fun u => s.tunnel u = k) = l.filter fun u => s.tunnel u = k := by
  induction l with
  | nil => rfl
  | cons u l ih =>
    by_cases same : u = t
    · subst same
      simp [apart]
    · simp [same, List.filter_cons, ih]

section
variable {i : Nat} {d : Teardown} (sorted : Sorted s c) (found : c.teardowns[i]? = some d)
include sorted found

theorem proceedOwn (own : s.teardown i = k) :
    (s.only k c).proceed (s.teardownOf k d) = (c.proceed d).map fun w => (s.serviceOf k w.1, w.2) := by
  have tunnel : s.tunnel d.tunnel = k := (sorted.teardowns i d found).symm.trans own
  have service : (s.only k c).service = s.serviceOf k c.service := rfl
  have target : (s.teardownOf k d).tunnel = s.tunnelAt k d.tunnel := rfl
  have phase : (s.teardownOf k d).phase = d.phase := rfl
  simp only [Shared.proceed, service, target, phase, tunnelOwn tunnel, bind]
  cases c.service.tunnels[d.tunnel]? with
  | none => rfl
  | some y =>
    simp only [Option.bind_some]
    cases at' : d.phase with
    | flagging =>
      simp only
      split <;> simp only [Option.map_some, setLifeOwn tunnel]
    | cancelling => simp only [Option.map_some, setLifeOwn tunnel]
    | releasing => simp only [Option.map_some, setLifeOwn tunnel]
    | taking => simp only [Option.map_some, setLifeOwn tunnel]
    | forgetting key rest =>
      have here : key = k := (sorted.due i d key found (by simp [at', Teardown.Phase.due])).trans tunnel
      subst here
      have lives := sorted.lives key
      simp only [Option.map_some, forgetOwn lives tunnel, servicePool, pooledOwn lives tunnel, heldOwn tunnel sorted]
    | publishing rest =>
      simp only [Option.map_some, publishOwn (e := .closed d.tunnel) tunnel]
      rfl
    | ended => rfl

theorem proceedOther (apart : s.teardown i ≠ k) {w : Service × Teardown.Phase} (moved : c.proceed d = some w) :
    s.serviceOf k w.1 = s.serviceOf k c.service := by
  have tunnel : s.tunnel d.tunnel ≠ k := sorted.teardowns i d found ▸ apart
  simp only [Shared.proceed, bind, Option.bind_eq_some_iff] at moved
  obtain ⟨y, -, moved⟩ := moved
  cases at' : d.phase with
  | flagging =>
    simp only [at'] at moved
    split at moved <;> cases moved
    · exact setLifeOther tunnel ..
    · rfl
  | cancelling =>
    simp only [at'] at moved
    cases moved
    exact setLifeOther tunnel ..
  | releasing =>
    simp only [at'] at moved
    cases moved
    exact setLifeOther tunnel ..
  | taking =>
    simp only [at'] at moved
    cases moved
    exact setLifeOther tunnel ..
  | forgetting key rest =>
    have here : key = s.tunnel d.tunnel := sorted.due i d key found (by simp [at', Teardown.Phase.due])
    simp only [at'] at moved
    cases moved
    exact forgetOther (here ▸ tunnel) ..
  | publishing rest =>
    simp only [at'] at moved
    cases moved
    exact publishOther tunnel _
  | ended => simp [at'] at moved

omit sorted found in
theorem proceedPublishes {w : Service × Teardown.Phase} (moved : c.proceed d = some w) :
    Publishes c.service w.1 := by
  simp only [Shared.proceed, bind, Option.bind_eq_some_iff] at moved
  obtain ⟨y, -, moved⟩ := moved
  split at moved
  · split at moved <;> cases moved
    · exact publishesSame (setLifePublished ..)
    · exact publishesSame rfl
  · cases moved
    exact publishesSame (setLifePublished ..)
  · cases moved
    exact publishesSame (setLifePublished ..)
  · cases moved
    exact publishesSame (setLifePublished ..)
  · cases moved
    exact publishesSame rfl
  · cases moved
    exact ⟨_, rfl⟩
  · cases moved

end

theorem teardownOwn {i : Nat} (sorted : Sorted s c) (own : s.teardown i = k) :
    (s.only k c).stepTeardown (s.teardownAt k i) = (c.stepTeardown i).map (s.only k) := by
  have looked : (s.only k c).teardowns[s.teardownAt k i]? = (c.teardowns[i]?).map (s.teardownOf k) := by
    simp only [only, teardownAt, List.getElem?_map, Labels.pickAt own]
  simp only [Shared.stepTeardown, looked, bind]
  cases found : c.teardowns[i]? with
  | none => rfl
  | some d =>
    simp only [Option.map_some, Option.bind_some, proceedOwn sorted found own]
    cases moved : c.proceed d with
    | none => rfl
    | some w =>
      simp only [Option.map_some, Option.bind_some, ← onlyWithService (proceedPublishes moved)]
      simp only [only, teardownAt, Labels.pickSetOwn own, List.map_set]
      rfl

theorem teardownOther {i : Nat} (sorted : Sorted s c) (apart : s.teardown i ≠ k) {c' : Shared}
    (moved : c.stepTeardown i = some c') : s.only k c' = s.only k c := by
  simp only [Shared.stepTeardown, bind, Option.bind_eq_some_iff] at moved
  obtain ⟨d, found, w, worked, last⟩ := moved
  cases last
  have same := onlyWithServiceSame (proceedPublishes worked) (proceedOther sorted found apart worked)
  rw [← same]
  simp only [only, Labels.pickSetOther apart]
  rfl

theorem onlyService (s : Sorting) (k : ProfileKey) (c : Shared) : (s.only k c).service = s.serviceOf k c.service := rfl

theorem knownOwn {t : TunnelId} (own : s.tunnel t = k) (v : Service) :
    s.tunnelAt k t < (s.serviceOf k v).tunnels.length ↔ t < v.tunnels.length := by
  simp only [serviceOf, Labels.pickLength]
  exact Labels.placeBelow own

theorem mapWithService {v : Option Service} (more : ∀ w ∈ v, Publishes c.service w) :
    (v.map (s.serviceOf k)).map (s.only k c).withService = (v.map c.withService).map (s.only k) := by
  cases v with
  | none => rfl
  | some w => simp only [Option.map_some, onlyWithService (more w rfl)]

theorem leaveOwn {r : Nat} (own : s.request r = k) (c : Shared) :
    (s.only k c).step (.leave (s.requestAt k r)) = (c.step (.leave r)).map (s.only k) := by
  simp only [Shared.step, onlyService, requestOwn own, bind]
  cases c.service.requests[r]? with
  | none => rfl
  | some x =>
    simp only [Option.map_some, Option.bind_some, requestOf]
    split
    · simp only [Option.map_some, only, setRequestOwn own, requestOf]
    · rfl

theorem letGoOwn {t : TunnelId} (own : s.tunnel t = k) (c : Shared) :
    (s.only k c).step (.letGo (s.tunnelAt k t)) = (c.step (.letGo t)).map (s.only k) := by
  simp only [Shared.step, referredOwn own]
  split
  · simp only [Option.map_some, only, eraseReference own]
  · rfl

theorem releaseHanded {r : Nat} {w : Service} {t : TunnelId} (sorted : Sorted s c)
    (released : c.service.release r = some (w, t)) : c.service.transport? r = some t ∧ s.tunnel t = s.request r := by
  simp only [Service.release, bind, Option.bind_eq_some_iff] at released
  obtain ⟨x, found, u, transport, released⟩ := released
  split at released
  · cases released
  · cases released
    have at' := Shared.transportDone found transport
    exact ⟨transport, (sorted.handed r x t found (by rw [at']; rfl)).trans (sorted.requests r x found).symm⟩

section
variable (sorted : Sorted s c)
include sorted

theorem deliverOwn {r : Nat} {t : TunnelId} (own : s.request r = k) (tunnel : s.tunnel t = k) :
    (s.only k c).step (.deliver (s.requestAt k r) (s.tunnelAt k t)) = (c.step (.deliver r t)).map (s.only k) := by
  have outcome : (s.serviceOf k c.service).created (s.requestAt k r) (.ok (s.tunnelAt k t)) = _ :=
    createdOwn sorted own (.ok t)
  simp only [Shared.step, heldOwn tunnel sorted, onlyService, knownOwn tunnel, outcome]
  split
  · cases c.service.created r (.ok t) with
    | none => rfl
    | some w => simp [only, List.filter_append, own]
  · rfl

theorem releaseStepOwn {r : Nat} (own : s.request r = k)
    (label : ∀ t, c.service.transport? r = some t → s.teardown c.teardowns.length = s.tunnel t) :
    (s.only k c).step (.release (s.requestAt k r)) = (c.step (.release r)).map (s.only k) := by
  simp only [Shared.step, onlyService, requestOwn own, releaseOwn own, bind]
  cases c.service.requests[r]? with
  | none => rfl
  | some x =>
    simp only [Option.map_some, Option.bind_some, requestOf]
    cases released : c.service.release r with
    | none => rfl
    | some w =>
      obtain ⟨transport, handed⟩ := releaseHanded sorted released
      have begun := @beginOwn s k { c with service := w.1 } w.2 (handed.trans own) (label w.2 transport) true
      simp only [Option.map_some, Option.bind_some]
      split
      · rfl
      · rw [Option.map_some, begun]
        rfl

theorem stepOwn {a : Action} (allots : Allots s c a) (own : s.keyOf c.service.tunnels.length a = k) :
    (s.only k c).step (s.actionOf k a) = (c.step a).map (s.only k) := by
  cases a with
  | ask p =>
    have label : s.request c.service.requests.length = k := (allots.request p rfl).trans own
    simp only [Shared.step, actionOf, Action.rename, Service.addRequest, Option.map_some, only, serviceOf,
      Labels.pickAppend, if_pos label, List.map_append]
    rfl
  | advance r b =>
    have moved := advanceOwn sorted own b fun x found at' => allots.attempt r b x rfl found at'
    simp only [Shared.step, actionOf, Action.rename, onlyService, moved]
    exact mapWithService fun w some' => advancePublishes some'
  | deliver r t => exact deliverOwn sorted own ((allots.tunnel r t rfl).trans own)
  | fail r reason =>
    have moved : (s.serviceOf k c.service).created (s.requestAt k r) (.error reason) = _ :=
      createdOwn sorted own (.error reason)
    simp only [Shared.step, actionOf, Action.rename, onlyService, moved]
    exact mapWithService fun w some' => createdPublishes some'
  | abort r =>
    simp only [Shared.step, actionOf, Action.rename, onlyService, abortOwn sorted own]
    exact mapWithService fun w some' => abortPublishes some'
  | make admission bufferSize statistics =>
    have label : s.tunnel c.service.tunnels.length = k := own
    have place : (s.serviceOf k c.service).tunnels.length = s.tunnelAt k c.service.tunnels.length :=
      Labels.pickLength ..
    simp only [Shared.step, actionOf, Action.rename, Service.addTunnel, Option.map_some, onlyService, place]
    simp only [only, serviceOf, Labels.pickAppend, if_pos label, List.filter_append, List.map_append]
    simp [label]
  | arrive t i => exact changeOwn own c _
  | poll t => exact changeOwn own c _
  | act t index a => exact changeOwn own c _
  | share t =>
    simp only [Shared.step, actionOf, Action.rename, heldOwn own sorted]
    split
    · rw [Option.map_some, referOwn own]
    · rfl
  | letGo t => exact letGoOwn own c
  | dispose t =>
    simp only [Shared.step, actionOf, Action.rename, heldOwn own sorted]
    split
    · rw [Option.map_some, beginOwn own (allots.teardown t rfl)]
    · rfl
  | release r => exact releaseStepOwn sorted own allots.teardown
  | leave r => exact leaveOwn own c
  | destroy t =>
    simp only [Shared.step, actionOf, Action.rename, heldOwn own sorted, onlyService, knownOwn own]
    split
    · rw [Option.map_some, beginOwn own (allots.teardown t rfl)]
    · rfl
  | teardown i => exact teardownOwn sorted own

theorem stepOther {a : Action} {c' : Shared} (allots : Allots s c a)
    (apart : s.keyOf c.service.tunnels.length a ≠ k) (moved : c.step a = some c') : s.only k c' = s.only k c := by
  cases a with
  | ask p =>
    have label : s.request c.service.requests.length ≠ k := allots.request p rfl ▸ apart
    cases moved
    simp only [only, serviceOf, Service.addRequest, Labels.pickAppend, if_neg label, List.append_nil]
  | advance r b =>
    obtain ⟨w, advanced, rfl⟩ := Option.map_eq_some_iff.mp moved
    have same := advanceOther sorted apart (fun x found at' => allots.attempt r b x rfl found at') advanced
    exact onlyWithServiceSame (advancePublishes advanced) same
  | deliver r t =>
    simp only [Shared.step] at moved
    split at moved
    · obtain ⟨w, created, rfl⟩ := Option.map_eq_some_iff.mp moved
      have other : s.request r ≠ k := apart
      have same := createdOther sorted apart created
      simp only [only, same]
      simp [List.filter_append, other]
    · cases moved
  | fail r reason =>
    obtain ⟨w, created, rfl⟩ := Option.map_eq_some_iff.mp moved
    exact onlyWithServiceSame (createdPublishes created) (createdOther sorted apart created)
  | abort r =>
    obtain ⟨w, aborted, rfl⟩ := Option.map_eq_some_iff.mp moved
    exact onlyWithServiceSame (abortPublishes aborted) (abortOther sorted apart aborted)
  | make admission bufferSize statistics =>
    have label : s.tunnel c.service.tunnels.length ≠ k := apart
    cases moved
    simp only [only, serviceOf, Labels.pickAppend, if_neg label, List.append_nil]
    simp [List.filter_append, label]
  | arrive t i => exact changeOther apart moved
  | poll t => exact changeOther apart moved
  | act t index a => exact changeOther apart moved
  | share t =>
    simp only [Shared.step] at moved
    split at moved <;> cases moved
    exact referOther apart c
  | letGo t =>
    simp only [Shared.step] at moved
    split at moved <;> cases moved
    simp only [only, eraseOtherReference apart]
  | dispose t =>
    simp only [Shared.step] at moved
    split at moved <;> cases moved
    exact beginOther apart (allots.teardown t rfl) true
  | release r =>
    simp only [Shared.step, bind, Option.bind_eq_some_iff] at moved
    obtain ⟨x, found, ⟨w, t⟩, released, moved⟩ := moved
    split at moved <;> cases moved
    obtain ⟨transport, handed⟩ := releaseHanded sorted released
    have begun := @beginOther s k { c with service := w } t (handed ▸ apart) (allots.teardown t transport) true
    refine begun.trans ?_
    simp only [Service.release, bind, Option.bind_eq_some_iff] at released
    obtain ⟨x, -, t, -, released⟩ := released
    split at released <;> cases released
    simp only [only, setRequestOther apart]
  | leave r =>
    simp only [Shared.step, bind, Option.bind_eq_some_iff] at moved
    obtain ⟨x, found, moved⟩ := moved
    split at moved <;> cases moved
    simp only [only, setRequestOther apart]
  | destroy t =>
    simp only [Shared.step] at moved
    split at moved <;> cases moved
    exact beginOther apart (allots.teardown t rfl) false
  | teardown i => exact teardownOther sorted apart moved

end

end TunnelRelay.Sorting
