import TunnelRelay.Proofs.Relay.Clients
import TunnelRelay.Proofs.Tunnel.Frames

/-! Runs of a tunnel and those of its clients. A step is an action of one client, or admits
one, or leaves all of them as they are; so a run of the tunnel is, for each client, the run
of its own actions from the moment it was admitted. -/
namespace TunnelRelay.Tunnel

structure Idle {η : Type} (t t' : Tunnel η) : Prop where
  admission : t'.admission = t.admission
  capacity : t'.capacity = t.capacity
  clients : t'.clients = t.clients
  statistics : t'.statistics = t.statistics
  connects : t'.connects = t.connects

inductive Takes {η : Type} (t : Tunnel η) : Step η → Tunnel η → Prop where
  | act {index a c c' n} (allowed : a = .cut → t.life.cancelled = true) (found : t.clients[index]? = some c)
      (after : c.after t.capacity a = some (c', n)) :
      Takes t (.act index a) { t with
        clients := t.clients.set index c'
        statistics := t.statistics.count a.direction (UInt64.ofNat n)
        connects := t.connects + begins a }
  | join {peer rest} (next : t.next? = some peer) (allowed : t.admission.allows peer = true) :
      Takes t .accept { t with incoming := rest, clients := t.clients ++ [{ peer }] }
  | turn {t'} (refused : ∀ peer, t.next? = some peer → t.admission.allows peer = false) (idle : Idle t t') :
      Takes t .accept t'
  | other {s t'} (unacted : ∀ index a, s ≠ .act index a) (unasked : s ≠ .accept) (idle : Idle t t') : Takes t s t'

variable {η : Type} {t t' u : Tunnel η} {s : Step η} {past steps : List (Step η)} {index : Nat} {a : Client.Action}
  {c c' : Client} {n : Nat}

theorem pollTakes (t : Tunnel η) : Takes t .accept t.poll := by
  unfold poll
  by_cases spent : t.loopEnded = true
  · rw [if_pos spent]
    exact .turn (by simp [next?, spent]) ⟨rfl, rfl, rfl, rfl, rfl⟩
  by_cases deaf : (t.life.cancelled || !t.life.listening) = true
  · rw [if_neg spent, if_pos deaf]
    exact .turn (by rw [next?, if_neg spent, if_pos deaf]; simp) ⟨rfl, rfl, rfl, rfl, rfl⟩
  rw [if_neg spent, if_neg deaf]
  split <;> rename_i found
  · exact .turn (by simp [next?, found]) ⟨rfl, rfl, rfl, rfl, rfl⟩
  · split <;> exact .turn (by simp [next?, found]) ⟨rfl, rfl, rfl, rfl, rfl⟩
  · rename_i peer rest
    have next : t.next? = some peer := by rw [next?, if_neg spent, if_neg deaf, found]
    split
    · rename_i allowed
      exact .join next allowed
    · rename_i refused
      refine .turn (fun peer other => ?_) ⟨rfl, rfl, rfl, rfl, rfl⟩
      cases next.symm.trans other
      simpa using refused

theorem stepTakes (stepped : t.step s = some t') : Takes t s t' := by
  cases s with
  | act index a =>
    obtain ⟨allowed, c, c', n, found, after, rfl⟩ := actCases stepped
    exact .act allowed found after
  | accept =>
    cases stepped
    exact pollTakes t
  | arrive i =>
    cases stepped
    refine .other (by simp) (by simp) ?_
    unfold arrive
    split <;> exact ⟨rfl, rfl, rfl, rfl, rfl⟩
  | register handler | flag =>
    cases stepped
    exact .other (by simp) (by simp) ⟨rfl, rfl, rfl, rfl, rfl⟩
  | cancel | release | take =>
    simp only [step] at stepped
    split at stepped <;> cases stepped
    exact .other (by simp) (by simp) ⟨rfl, rfl, rfl, rfl, rfl⟩

theorem ownAppend (index : Nat) (past rest : List (Step η)) :
    own index (past ++ rest) = own index past ++ own index rest :=
  List.filterMap_append

theorem ownAct (index : Nat) (a : Client.Action) : own index [Step.act (η := η) index a] = [a] := by
  simp [own]

theorem ownOther (other : ∀ a, s ≠ .act index a) : own index [s] = [] := by
  cases s with
  | act i a =>
    have different : i ≠ index := fun same => other a (by rw [same])
    simp [own, different]
  | _ => rfl

theorem ownMem : a ∈ own index steps ↔ .act index a ∈ steps := by
  simp only [own, List.mem_filterMap]
  constructor
  · rintro ⟨s, mem, found⟩
    cases s with
    | act i b =>
      simp only [Option.ite_none_right_eq_some, Option.some.injEq] at found
      obtain ⟨rfl, rfl⟩ := found
      exact mem
    | _ => contradiction
  · exact fun mem => ⟨_, mem, by simp⟩

theorem takesOwn (takes : Takes t s t') (found : t.clients[index]? = some c) :
    ∃ c', t'.clients[index]? = some c' ∧ c'.peer = c.peer ∧ Client.run t.capacity c (own index [s]) = some c' := by
  cases takes with
  | @act i a x x' n allowed found' after =>
    obtain ⟨known, -⟩ := List.getElem?_eq_some_iff.mp found
    by_cases same : i = index
    · subst same
      cases found.symm.trans found'
      refine ⟨x', by simp [known], Client.doesPeer (Client.does after), ?_⟩
      simp [ownAct, Client.run, after]
    · refine ⟨c, by simpa [List.getElem?_set, same] using found, rfl, ?_⟩
      rw [ownOther (by simp [same])]
      rfl
  | join next allowed =>
    obtain ⟨known, -⟩ := List.getElem?_eq_some_iff.mp found
    refine ⟨c, by simpa [List.getElem?_append_left known] using found, rfl, ?_⟩
    rw [ownOther (by simp)]
    rfl
  | turn refused idle =>
    refine ⟨c, by rwa [idle.clients], rfl, ?_⟩
    rw [ownOther (by simp)]
    rfl
  | other unacted unasked idle =>
    refine ⟨c, by rwa [idle.clients], rfl, ?_⟩
    rw [ownOther (unacted index)]
    rfl

theorem takesNew (takes : Takes t s t') (new : t.clients[index]? = none) :
    own index [s] = [] ∧ ∀ c, t'.clients[index]? = some c → c = { peer := c.peer } := by
  cases takes with
  | @act i a x x' n allowed found after =>
    have same : i ≠ index := by
      rintro rfl
      simp [new] at found
    refine ⟨ownOther (by simp [same]), fun c found' => ?_⟩
    simp [same, new] at found'
  | @join peer rest next allowed =>
    refine ⟨ownOther (by simp), fun c found' => ?_⟩
    rw [List.getElem?_append_right (List.getElem?_eq_none_iff.mp new)] at found'
    rw [List.getElem?_singleton] at found'
    split at found' <;> cases found'
    rfl
  | turn refused idle =>
    refine ⟨ownOther (by simp), fun c found' => ?_⟩
    simp [idle.clients, new] at found'
  | other unacted unasked idle =>
    refine ⟨ownOther (unacted index), fun c found' => ?_⟩
    simp [idle.clients, new] at found'

theorem takesFrame (takes : Takes t s t') : t'.admission = t.admission ∧ t'.capacity = t.capacity := by
  cases takes with
  | act | join => exact ⟨rfl, rfl⟩
  | turn refused idle | other unacted unasked idle => exact ⟨idle.admission, idle.capacity⟩

theorem runFirst (first : t.step s = some t') (rest : List (Step η)) : t.run (s :: rest) = t'.run rest := by
  simp [run, first]

theorem runLast (ran : t.run (past ++ [s]) = some u) : ∃ b, t.run past = some b ∧ b.step s = some u := by
  simp only [run, List.foldlM_append, List.foldlM_cons, List.foldlM_nil, bind_pure] at ran
  exact Option.bind_eq_some_iff.mp ran

theorem runFrame (ran : t.run steps = some u) : u.admission = t.admission ∧ u.capacity = t.capacity := by
  induction steps using List.reverseRecOn generalizing u with
  | nil =>
    cases ran
    exact ⟨rfl, rfl⟩
  | append_singleton past s ih =>
    obtain ⟨b, before, last⟩ := runLast ran
    obtain ⟨admission, capacity⟩ := takesFrame (stepTakes last)
    exact ⟨admission.trans (ih before).1, capacity.trans (ih before).2⟩

theorem clientRunAppend {capacity : Nat} {first second : List Client.Action}
    (ran : Client.run capacity c first = some c') :
    Client.run capacity c (first ++ second) = Client.run capacity c' second := by
  simp only [Client.run, List.foldlM_append] at ran ⊢
  rw [ran]
  rfl

theorem runOwn (ran : t.run steps = some u) (found : t.clients[index]? = some c) :
    ∃ c', u.clients[index]? = some c' ∧ c'.peer = c.peer ∧ Client.run t.capacity c (own index steps) = some c' := by
  induction steps using List.reverseRecOn generalizing u with
  | nil =>
    cases ran
    exact ⟨c, found, rfl, rfl⟩
  | append_singleton past s ih =>
    obtain ⟨b, before, last⟩ := runLast ran
    obtain ⟨c₁, found₁, peer₁, ran₁⟩ := ih before
    obtain ⟨c₂, found₂, peer₂, ran₂⟩ := takesOwn (stepTakes last) found₁
    rw [(runFrame before).2] at ran₂
    exact ⟨c₂, found₂, peer₂.trans peer₁, by rw [ownAppend, clientRunAppend ran₁, ran₂]⟩

theorem runAlone (start : t.clients = []) (ran : t.run steps = some u) :
    (∀ index c, u.clients[index]? = some c → Client.run u.capacity { peer := c.peer } (own index steps) = some c) ∧
      ∀ index, u.clients[index]? = none → own index steps = [] := by
  induction steps using List.reverseRecOn generalizing u with
  | nil =>
    cases ran
    simp [start, own]
  | append_singleton past s ih =>
    obtain ⟨b, before, last⟩ := runLast ran
    have takes := stepTakes last
    obtain ⟨present, absent⟩ := ih before
    refine ⟨fun index c found => ?_, fun index gone => ?_⟩
    · rw [ownAppend, (takesFrame takes).2]
      cases known : b.clients[index]? with
      | none =>
        obtain ⟨nothing, fresh⟩ := takesNew takes known
        rw [absent index known, nothing, fresh c found]
        rfl
      | some c₁ =>
        obtain ⟨c₂, found₂, peer, ran₂⟩ := takesOwn takes known
        cases found.symm.trans found₂
        rw [peer, clientRunAppend (present index c₁ known), ran₂]
    · cases known : b.clients[index]? with
      | none => rw [ownAppend, absent index known, (takesNew takes known).1, List.append_nil]
      | some c =>
        obtain ⟨c', found, -⟩ := takesOwn takes known
        simp [gone] at found

theorem actStep (found : t.clients[index]? = some c) (after : c.after t.capacity a = some (c', n)) (other : a ≠ .cut) :
    ∃ u, t.step (.act index a) = some u ∧ u.clients[index]? = some c' ∧ u.capacity = t.capacity := by
  obtain ⟨known, -⟩ := List.getElem?_eq_some_iff.mp found
  refine ⟨{ t with
    clients := t.clients.set index c'
    statistics := t.statistics.count a.direction (UInt64.ofNat n)
    connects := t.connects + begins a }, ?_, by simp [known], rfl⟩
  cases a with
  | cut => contradiction
  | _ => simp [step, act, found, after, begins]

theorem actsRun {actions : List Client.Action} (found : t.clients[index]? = some c)
    (ran : Client.run t.capacity c actions = some c') (uncut : .cut ∉ actions) :
    ∃ u, t.run (actions.map (.act index)) = some u ∧ u.clients[index]? = some c' := by
  induction actions generalizing t c with
  | nil =>
    cases ran
    exact ⟨t, rfl, found⟩
  | cons a rest ih =>
    simp only [Client.run, List.foldlM_cons] at ran
    obtain ⟨b, first, ran⟩ := Option.bind_eq_some_iff.mp ran
    obtain ⟨⟨b, n⟩, after, rfl⟩ := Option.map_eq_some_iff.mp first
    have other : a ≠ .cut := fun same => uncut (by simp [same])
    obtain ⟨t₁, stepped, found₁, capacity⟩ := actStep found after other
    obtain ⟨u, ran, found'⟩ := ih found₁ (by rwa [capacity]) fun mem => uncut (List.mem_cons_of_mem _ mem)
    exact ⟨u, (runFirst stepped _).trans ran, found'⟩

theorem stepLife (stepped : t.step s = some t') :
    (t.life.closed = true → t'.life.closed = true) ∧
      (t'.life.cancelled = true → t.life.cancelled = true ∨ t.life.closed = true) := by
  cases s with
  | arrive i =>
    cases stepped
    rw [(arriveSame t i).life]
    exact ⟨id, .inl⟩
  | accept =>
    cases stepped
    rw [(pollSame t).life]
    exact ⟨id, .inl⟩
  | act index a =>
    rw [(actSame stepped).life]
    exact ⟨id, .inl⟩
  | register handler =>
    cases stepped
    cases closed : t.life.closed with
    | false => simp only [Lifecycle.registerOpen closed]; exact ⟨by simp [closed], .inl⟩
    | true => simp only [Lifecycle.registerClosed closed]; exact ⟨fun _ => closed, .inl⟩
  | flag =>
    cases stepped
    exact ⟨fun _ => rfl, .inl⟩
  | cancel | release | take =>
    simp only [step] at stepped
    split at stepped <;> cases stepped
    rename_i closed
    exact ⟨fun _ => closed, fun _ => .inr closed⟩

theorem runClosed (start : t.life.cancelled = true → t.life.closed = true) (ran : t.run steps = some u) :
    (u.life.cancelled = true → u.life.closed = true) ∧ ∀ index, .cut ∈ own index steps → u.life.closed = true := by
  induction steps using List.reverseRecOn generalizing u with
  | nil =>
    cases ran
    exact ⟨start, by simp [own]⟩
  | append_singleton past s ih =>
    obtain ⟨b, before, last⟩ := runLast ran
    obtain ⟨cancelled, cuts⟩ := ih before
    obtain ⟨stays, comes⟩ := stepLife last
    refine ⟨fun now => stays ((comes now).elim cancelled id), fun index cut => ?_⟩
    rw [ownAppend, List.mem_append] at cut
    rcases cut with earlier | now
    · exact stays (cuts index earlier)
    · have here : s = .act index .cut := by simpa [eq_comm] using ownMem.mp now
      rw [here] at last
      exact stays (cancelled ((actCases (show b.act index .cut = some u from last)).1 rfl))

end TunnelRelay.Tunnel
