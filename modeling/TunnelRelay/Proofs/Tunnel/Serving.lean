import TunnelRelay.Proofs.Tunnel.Alone
import TunnelRelay.Proofs.Tunnel.Relays
import TunnelRelay.Tunnel.Serving

/-! A tunnel from its first client to the last caller that closed it. Up to its end the
accept loop takes what comes in order, and relays the clients that are admitted. A fatal
failure ends it and closes the tunnel; a closing ends it with its next turn. Whoever waits
for that end can go on once it has come, and not before. -/
namespace TunnelRelay

theorem Incoming.fatalNobody {a : Admission} {i : Incoming} (fatal : i.isFatal = true) : i.admitted a = none := by
  cases i with
  | client peer => contradiction
  | fault error => rfl

theorem Tunnel.pollNext {η : Type} {t : Tunnel η} {i : Incoming} {rest : List Incoming} (going : t.loopEnded = false)
    (uncancelled : t.life.cancelled = false) (listening : t.life.listening = true) (next : t.incoming = i :: rest) :
    t.poll = { t with
      incoming := rest
      loopEnded := i.isFatal
      clients := t.clients ++ (i.admitted t.admission).toList.map fun peer => { peer } } := by
  cases i with
  | client peer =>
    cases allowed : t.admission.allows peer <;>
      simp [poll, going, uncancelled, listening, next, Incoming.isFatal, Incoming.admitted, allowed]
  | fault error =>
    cases transient : error.isTransient <;>
      simp [poll, going, uncancelled, listening, next, Incoming.isFatal, Incoming.admitted, transient]

def Lifecycle.spent : Lifecycle Handler := { closed := true, cancelled := true, listening := false }

namespace Serving

open Closing (handlerNotes)

inductive Alive (handlers : List Handler) (s : Serving) : Prop where
  | opened (life : s.tunnel.life = { handlers }) (quiet : s.notes = [])
  | closed (life : s.tunnel.life = .spent) (told : s.notes = handlers.flatMap handlerNotes)

def ended (handlers : List Handler) (s : Serving) : Serving :=
  { s with tunnel := { s.tunnel with life := .spent }, notes := handlers.flatMap handlerNotes }

inductive Goes (handlers : List Handler) (s : Serving) : Event → Serving → Prop where
  | arrive {i} (opened : s.tunnel.life.closed = false) :
      Goes handlers s (.arrive i) { s with
        tunnel := { s.tunnel with incoming := s.tunnel.incoming ++ [i] }
        arrived := s.arrived ++ [i] }
  | missed {i} (closed : s.tunnel.life = .spent) : Goes handlers s (.arrive i) s
  | act {index a t c c' n} (found : s.tunnel.clients[index]? = some c) (after : c.after s.tunnel.capacity a = some (c', n))
      (clients : t.clients = s.tunnel.clients.set index c') (incoming : t.incoming = s.tunnel.incoming)
      (loop : t.loopEnded = s.tunnel.loopEnded) (same : Tunnel.Same s.tunnel t) :
      Goes handlers s (.act index a) { s with tunnel := t }
  | register {h} (opened : s.tunnel.life.closed = false) (quiet : s.notes = []) :
      Goes handlers s (.register h) { s with tunnel := { s.tunnel with life := { handlers := handlers ++ [h] } } }
  | overdue {h} (closed : s.tunnel.life = .spent) (told : s.notes = handlers.flatMap handlerNotes) :
      Goes handlers s (.register h) { s with notes := (handlers ++ [h]).flatMap handlerNotes }
  | dispose : Goes handlers s .dispose (s.ended handlers)
  | close : Goes handlers s .close { s.ended handlers with closers := s.closers ++ [s.stopped] }
  | look {closer} (waits : s.closers[closer]? = some false) :
      Goes handlers s (.look closer) { s with closers := s.closers.set closer s.stopped }
  | idle (opened : s.tunnel.life.closed = false) (nothing : s.tunnel.incoming = []) : Goes handlers s .turn s
  | takes {i rest} (opened : s.tunnel.life.closed = false) (next : s.tunnel.incoming = i :: rest)
      (survived : i.isFatal = false) :
      Goes handlers s .turn { s with
        tunnel := { s.tunnel with
          incoming := rest
          clients := s.tunnel.clients ++ (i.admitted s.tunnel.admission).toList.map fun peer => { peer } }
        taken := s.taken ++ [i] }
  | fails {i rest} (opened : s.tunnel.life.closed = false) (next : s.tunnel.incoming = i :: rest)
      (fatal : i.isFatal = true) :
      Goes handlers s .turn { s with
        tunnel := { s.tunnel with incoming := rest, loopEnded := true, life := .spent }
        notes := handlers.flatMap handlerNotes
        stopped := true
        taken := s.taken ++ [i] }
  | stops (closed : s.tunnel.life = .spent) (told : s.notes = handlers.flatMap handlerNotes) :
      Goes handlers s .turn { s with tunnel := { s.tunnel with loopEnded := true }, stopped := true }

variable {handlers : List Handler} {s s' u : Serving} {e : Event} {events past : List Event} {admission : Admission}

theorem aliveCases (alive : Alive handlers s) :
    (s.tunnel.life.closed = false ∧ s.tunnel.life = { handlers } ∧ s.notes = []) ∨
      (s.tunnel.life.closed = true ∧ s.tunnel.life = .spent ∧ s.notes = handlers.flatMap handlerNotes) := by
  cases alive with
  | opened life quiet => exact .inl ⟨by rw [life], life, quiet⟩
  | closed life told => exact .inr ⟨by rw [life]; rfl, life, told⟩

theorem disposeEnds (alive : Alive handlers s) : s.dispose = s.ended handlers := by
  unfold dispose ended
  rw [Closing.closeComes]
  cases alive with
  | opened life quiet =>
    rw [life, Lifecycle.disposeOpen rfl, quiet]
    rfl
  | closed life told =>
    rw [life, Lifecycle.disposeAgain rfl, told]
    simp

theorem disposeTaken {t : Tunnel Handler} {taken : List Incoming} (alive : Alive handlers s)
    (same : t.life = s.tunnel.life) :
    ({ s with tunnel := t, taken } : Serving).dispose = ({ s with tunnel := t, taken } : Serving).ended handlers :=
  disposeEnds (by cases alive with
    | opened life quiet => exact .opened (same.trans life) quiet
    | closed life told => exact .closed (same.trans life) told)

theorem turnNext {i : Incoming} {rest : List Incoming} (alive : Alive handlers s) (going : s.tunnel.loopEnded = false)
    (life : s.tunnel.life = { handlers }) (next : s.tunnel.incoming = i :: rest) : Goes handlers s .turn s.turn := by
  have opened : s.tunnel.life.closed = false := by rw [life]
  have heard : s.tunnel.result? = some i := by simp [Tunnel.result?, going, life, next]
  have polled := Tunnel.pollNext (t := s.tunnel) going (by rw [life]) (by rw [life]) next
  cases fatal : i.isFatal with
  | false =>
    have took : s.turn = { s with
        tunnel := { s.tunnel with
          incoming := rest
          clients := s.tunnel.clients ++ (i.admitted s.tunnel.admission).toList.map fun peer => { peer } }
        taken := s.taken ++ [i] } := by
      simp [turn, polled, heard, going, fatal]
    rw [took]
    exact .takes opened next fatal
  | true =>
    have failed : s.turn = { s with
        tunnel := { s.tunnel with incoming := rest, loopEnded := true, life := .spent }
        notes := handlers.flatMap handlerNotes
        stopped := true
        taken := s.taken ++ [i] } := by
      simp [turn, polled, heard, fatal, disposeTaken alive, ended, Incoming.fatalNobody fatal]
    rw [failed]
    exact .fails opened next fatal

theorem turnGoes (alive : Alive handlers s) (going : s.tunnel.loopEnded = false) : Goes handlers s .turn s.turn := by
  rcases aliveCases alive with ⟨opened, life, -⟩ | ⟨-, life, told⟩
  · cases next : s.tunnel.incoming with
    | nil =>
      have heard : s.tunnel.result? = none := by simp [Tunnel.result?, next]
      have polled : s.tunnel.poll = s.tunnel := by simp [Tunnel.poll, going, life, next]
      have same : s.turn = s := by simp [turn, polled, heard, going]
      rw [same]
      exact .idle opened next
    | cons i rest => exact turnNext alive going life next
  · have heard : s.tunnel.result? = none := by simp [Tunnel.result?, life, Lifecycle.spent]
    have polled : s.tunnel.poll = { s.tunnel with loopEnded := true } := by simp [Tunnel.poll, going, life, Lifecycle.spent]
    have stopped : s.turn = { s with tunnel := { s.tunnel with loopEnded := true }, stopped := true } := by
      simp [turn, polled, heard, disposeTaken alive, ended, ← told, ← life]
    rw [stopped]
    exact .stops life told

theorem happenGoes (alive : Alive handlers s) (synced : s.tunnel.loopEnded = s.stopped)
    (happened : s.happen e = some s') : Goes handlers s e s' := by
  cases e with
  | turn =>
    simp only [happen] at happened
    split at happened
    · contradiction
    · rename_i going
      cases happened
      exact turnGoes alive (by rw [synced]; simpa using going)
  | act index a =>
    simp only [happen, Option.map_eq_some_iff] at happened
    obtain ⟨t, acted, rfl⟩ := happened
    obtain ⟨-, c, c', n, found, after, same⟩ := Tunnel.actCases acted
    exact .act found after (by rw [same]) (by rw [same]) (by rw [same]) (Tunnel.actSame acted)
  | arrive i =>
    cases happened
    rcases aliveCases alive with ⟨opened, life, quiet⟩ | ⟨-, life, told⟩
    · have heard : s.arrive i = { s with
          tunnel := { s.tunnel with incoming := s.tunnel.incoming ++ [i] }
          arrived := s.arrived ++ [i] } := by
        simp [arrive, Tunnel.arrive, life]
      rw [heard]
      exact .arrive opened
    · have missed : s.arrive i = s := by simp [arrive, Tunnel.arrive, life, Lifecycle.spent]
      rw [missed]
      exact .missed life
  | register h =>
    cases happened
    rcases aliveCases alive with ⟨opened, life, quiet⟩ | ⟨closed, life, told⟩
    · have waits : s.register h = { s with tunnel := { s.tunnel with life := { handlers := handlers ++ [h] } } } := by
        simp [register, Closing.registerComes, life, Lifecycle.register]
      rw [waits]
      exact .register opened quiet
    · have runs : s.register h = { s with notes := (handlers ++ [h]).flatMap handlerNotes } := by
        simp [register, Closing.registerComes, Lifecycle.registerClosed closed, told]
      rw [runs]
      exact .overdue life told
  | dispose =>
    cases happened
    rw [disposeEnds alive]
    exact .dispose
  | close =>
    cases happened
    rw [disposeEnds alive]
    exact .close
  | look closer =>
    simp only [happen, Option.ite_none_right_eq_some, Option.some.injEq] at happened
    obtain ⟨waits, rfl⟩ := happened
    exact .look waits

theorem registeredLast (past : List Event) (e : Event) : registered (past ++ [e]) = registered past ++ registered [e] :=
  List.filterMap_append

theorem begunLast (index : Nat) (past : List Event) (e : Event) :
    begun index (past ++ [e]) = begun index past + begun index [e] :=
  List.countP_append

theorem aliveStep (alive : Alive (registered past) s) (goes : Goes (registered past) s e s') :
    Alive (registered (past ++ [e])) s' := by
  rw [registeredLast]
  cases goes with
  | register opened quiet => exact .opened rfl quiet
  | overdue closed told => exact .closed closed rfl
  | dispose | close | fails => exact .closed rfl (by simp [registered, ended])
  | stops closed told => exact .closed closed (by simpa [registered] using told)
  | act found after clients incoming loop same =>
    cases alive with
    | opened life quiet => exact .opened (by simpa [registered] using same.life.trans life) quiet
    | closed life told => exact .closed (same.life.trans life) (by simpa [registered] using told)
  | arrive | missed | look | idle | takes =>
    cases alive with
    | opened life quiet => exact .opened (by simpa [registered] using life) quiet
    | closed life told => exact .closed life (by simpa [registered] using told)

structure Orderly (s : Serving) : Prop where
  synced : s.tunnel.loopEnded = s.stopped
  shut : s.stopped = true → s.tunnel.life.closed = true
  returned : ∀ closer : Nat, s.closers[closer]? = some true → s.stopped = true

theorem orderlyStep (orderly : Orderly s) (goes : Goes handlers s e s') : Orderly s' := by
  obtain ⟨synced, shut, returned⟩ := orderly
  cases goes with
  | arrive | missed | overdue | idle | takes => exact ⟨synced, shut, returned⟩
  | act found after clients incoming loop same =>
    exact ⟨loop.trans synced, fun stopped => by rw [same.life]; exact shut stopped, returned⟩
  | register opened quiet => exact ⟨synced, fun stopped => by simp [shut stopped] at opened, returned⟩
  | dispose => exact ⟨synced, fun _ => rfl, returned⟩
  | close =>
    refine ⟨synced, fun _ => rfl, fun closer found => ?_⟩
    rw [List.getElem?_append] at found
    split at found
    · exact returned closer found
    · simp only [List.getElem?_singleton] at found
      split at found
      · exact Option.some.inj found
      · contradiction
  | look waits =>
    refine ⟨synced, shut, fun closer found => ?_⟩
    simp only [List.getElem?_set] at found
    split at found
    · split at found
      · exact Option.some.inj found
      · contradiction
    · exact returned closer found
  | fails => exact ⟨rfl, fun _ => rfl, fun _ _ => rfl⟩
  | stops closed => exact ⟨rfl, fun _ => by rw [closed]; rfl, fun _ _ => rfl⟩

structure Admits (admission : Admission) (s : Serving) : Prop where
  kept : s.tunnel.admission = admission
  order : s.arrived = s.taken ++ s.tunnel.incoming
  relayed : s.tunnel.clients.map Client.peer = s.taken.filterMap (Incoming.admitted admission)
  survived : ∀ i ∈ s.taken.dropLast, i.isFatal = false
  failed : ∀ i ∈ s.taken, i.isFatal = true → s.stopped = true

theorem openSurvived (orderly : Orderly s) (admits : Admits admission s) (opened : s.tunnel.life.closed = false) :
    ∀ i ∈ s.taken, i.isFatal = false := by
  intro i mem
  cases fatal : i.isFatal with
  | false => rfl
  | true => exact ((orderly.shut (admits.failed i mem fatal)).symm.trans opened)

theorem admitsStep (orderly : Orderly s) (admits : Admits admission s) (goes : Goes handlers s e s') :
    Admits admission s' := by
  have open' := openSurvived orderly admits
  obtain ⟨kept, order, relayed, survived, failed⟩ := admits
  cases goes with
  | missed | register | overdue | dispose | close | look | idle => exact ⟨kept, order, relayed, survived, failed⟩
  | arrive => exact ⟨kept, by rw [order, List.append_assoc], relayed, survived, failed⟩
  | @act index a t c c' n found after clients incoming loop same =>
    have peers : t.clients.map Client.peer = s.tunnel.clients.map Client.peer := by
      rw [clients, Client.setPeers found (Client.doesPeer (Client.does after))]
    exact ⟨same.admission.trans kept, by rw [order, incoming], peers.trans relayed, survived, failed⟩
  | @takes i rest opened next survived' =>
    have calm := open' opened
    refine ⟨kept, by rw [order, next, List.append_assoc]; rfl, ?_, by simpa using calm, fun j mem fatal => ?_⟩
    · rw [List.map_append, relayed, kept, List.filterMap_append]
      cases admitted : i.admitted admission <;> simp [admitted]
    · rcases List.mem_append.mp mem with earlier | last
      · exact failed j earlier fatal
      · cases List.mem_singleton.mp last
        exact absurd fatal (by simp [survived'])
  | @fails i rest opened next fatal =>
    have calm := open' opened
    refine ⟨kept, by rw [order, next, List.append_assoc]; rfl, ?_, by simpa using calm, fun _ _ _ => rfl⟩
    rw [List.filterMap_append]
    simpa [Incoming.fatalNobody fatal] using relayed
  | stops closed => exact ⟨kept, order, relayed, survived, fun _ _ _ => rfl⟩

theorem closedStep (goes : Goes handlers s e s')
    (closed : s.tunnel.life.closed = (s.taken.any Incoming.isFatal || past.any Event.closes)) :
    s'.tunnel.life.closed = (s'.taken.any Incoming.isFatal || (past ++ [e]).any Event.closes) := by
  simp only [List.any_append, List.any_cons, List.any_nil, Bool.or_false]
  cases goes with
  | arrive | missed | overdue | look | idle => simpa [Event.closes] using closed
  | register opened => simpa [Event.closes, opened] using closed
  | act found after clients incoming loop same => simpa [Event.closes, same.life] using closed
  | dispose | close => simp [Event.closes, ended, Lifecycle.spent]
  | takes opened next survived => simpa [Event.closes, survived] using closed
  | fails opened next fatal => simp [fatal, Lifecycle.spent]
  | stops => simpa [Event.closes] using closed

def due (clients : List Client) (index : Nat) : Nat :=
  match clients[index]? with
  | some c => if c.stage = .waiting then 1 else 0
  | none => 1

theorem dueOne (clients : List Client) (index : Nat) : due clients index ≤ 1 := by
  unfold due
  split
  · split <;> omega
  · exact Nat.le_refl 1

theorem dueBeyond {clients : List Client} {index : Nat} (beyond : clients.length ≤ index) : due clients index = 1 := by
  simp only [due, List.getElem?_eq_none_iff.mpr beyond]

theorem begunStep {index : Nat} (goes : Goes handlers s e s') (once : begun index past + due s.tunnel.clients index ≤ 1) :
    begun index (past ++ [e]) + due s'.tunnel.clients index ≤ 1 := by
  rw [begunLast]
  cases goes with
  | @act i a t c c' n found after clients =>
    obtain ⟨-, count⟩ := Client.afterStage after
    obtain ⟨known, -⟩ := List.getElem?_eq_some_iff.mp found
    by_cases same : i = index
    · subst same
      have begins : begun i [.act i a] = Tunnel.begins a := by cases a <;> simp [begun, Tunnel.begins]
      simp only [due, found] at once
      simp only [due, clients, List.getElem?_set_self known, begins]
      omega
    · have other : begun index [.act i a] = 0 := by cases a <;> simp [begun, same]
      simp only [due, clients, List.getElem?_set_ne same, other]
      exact once
  | @takes i rest opened next =>
    rcases Nat.lt_or_ge index s.tunnel.clients.length with known | new
    · simp only [due, List.getElem?_append_left known]
      exact once
    · refine Nat.le_trans (Nat.add_le_add_left (dueOne _ index) _) ?_
      exact dueBeyond new ▸ once
  | arrive | missed | register | overdue | dispose | close | look | idle | fails | stops => exact once

theorem runLast (ran : s.run (past ++ [e]) = some s') : ∃ b, s.run past = some b ∧ b.happen e = some s' := by
  unfold run at ran
  rw [List.foldlM_append] at ran
  obtain ⟨b, before, last⟩ := Option.bind_eq_some_iff.mp ran
  obtain ⟨c, happened, same⟩ := Option.bind_eq_some_iff.mp last
  cases same
  exact ⟨b, before, happened⟩

structure Sound (admission : Admission) (events : List Event) (s : Serving) : Prop where
  alive : Alive (registered events) s
  orderly : Orderly s
  admits : Admits admission s
  closed : s.tunnel.life.closed = (s.taken.any Incoming.isFatal || events.any Event.closes)
  once : ∀ index, begun index events + due s.tunnel.clients index ≤ 1

theorem soundBegin (admission : Admission) (bufferSize : UInt64) (statistics : Statistics) (endpoint : Endpoint) :
    Sound admission [] (begin admission bufferSize statistics endpoint) := by
  refine ⟨.opened rfl rfl, ⟨rfl, nofun, fun closer found => ?_⟩, ⟨rfl, rfl, rfl, nofun, nofun⟩, rfl, fun index => ?_⟩
  · simp [begin] at found
  · exact Nat.le_refl 1

theorem soundGoes (sound : Sound admission past s) (happened : s.happen e = some s') :
    Goes (registered past) s e s' :=
  happenGoes sound.alive sound.orderly.synced happened

theorem soundStep (sound : Sound admission past s) (happened : s.happen e = some s') :
    Sound admission (past ++ [e]) s' := by
  have goes := soundGoes sound happened
  exact ⟨aliveStep sound.alive goes, orderlyStep sound.orderly goes, admitsStep sound.orderly sound.admits goes,
    closedStep goes sound.closed, fun index => begunStep goes (sound.once index)⟩

theorem soundRun (sound : Sound admission past s) (ran : s.run events = some u) : Sound admission (past ++ events) u := by
  induction events using List.reverseRecOn generalizing u with
  | nil =>
    cases ran
    rwa [List.append_nil]
  | append_singleton earlier e ih =>
    obtain ⟨b, before, last⟩ := runLast ran
    rw [← List.append_assoc]
    exact soundStep (ih before) last

structure After (s u : Serving) : Prop where
  closed : s.tunnel.life.closed = true → u.tunnel.life.closed = true ∧ u.taken = s.taken ∧
    u.tunnel.clients.map Client.peer = s.tunnel.clients.map Client.peer
  ended : s.tunnel.loopEnded = true → u.tunnel.loopEnded = true

theorem afterStep (orderly : Orderly s) (admits : Admits admission s) (goes : Goes handlers s e s') : After s s' := by
  have admits' := admitsStep orderly admits goes
  have peers (same : s'.taken = s.taken) : s'.tunnel.clients.map Client.peer = s.tunnel.clients.map Client.peer := by
    rw [admits'.relayed, admits.relayed, same]
  cases goes with
  | arrive opened | register opened | takes opened =>
    exact ⟨fun closed => by simp [opened] at closed, id⟩
  | fails opened => exact ⟨fun closed => by simp [opened] at closed, fun _ => rfl⟩
  | missed | overdue | look | idle => exact ⟨fun closed => ⟨closed, rfl, rfl⟩, id⟩
  | dispose | close => exact ⟨fun _ => ⟨rfl, rfl, rfl⟩, id⟩
  | act found after clients incoming loop same =>
    exact ⟨fun closed => ⟨by rw [same.life, closed], rfl, peers rfl⟩, fun ended => by rw [loop, ended]⟩
  | stops => exact ⟨fun closed => ⟨closed, rfl, rfl⟩, fun _ => rfl⟩

theorem afterRun (sound : Sound admission past s) (ran : s.run events = some u) : After s u := by
  induction events using List.reverseRecOn generalizing u with
  | nil =>
    cases ran
    exact ⟨fun closed => ⟨closed, rfl, rfl⟩, id⟩
  | append_singleton earlier e ih =>
    obtain ⟨b, before, last⟩ := runLast ran
    have sound' := soundRun sound before
    obtain ⟨closed, ended⟩ := ih before
    obtain ⟨closed', ended'⟩ := afterStep sound'.orderly sound'.admits (soundGoes sound' last)
    refine ⟨fun gone => ?_, fun gone => ended' (ended gone)⟩
    obtain ⟨still, taken, peers⟩ := closed gone
    obtain ⟨still', taken', peers'⟩ := closed' still
    exact ⟨still', taken'.trans taken, peers'.trans peers⟩

structure Turned (handlers : List Handler) (s s' : Serving) : Prop where
  closed : s.tunnel.life.closed = true → s'.tunnel.loopEnded = true ∧ s'.taken = s.taken ∧
    s'.tunnel.clients = s.tunnel.clients
  idle : s.tunnel.life.closed = false → s.tunnel.incoming = [] → s' = s
  survives : s.tunnel.life.closed = false → ∀ i rest, s.tunnel.incoming = i :: rest → i.isFatal = false →
    s'.taken = s.taken ++ [i] ∧ s'.tunnel.loopEnded = false ∧ s'.tunnel.life = s.tunnel.life ∧
      s'.tunnel.clients = s.tunnel.clients ++ (i.admitted s.tunnel.admission).toList.map fun peer => ({ peer } : Client)
  fails : s.tunnel.life.closed = false → ∀ i rest, s.tunnel.incoming = i :: rest → i.isFatal = true →
    s'.taken = s.taken ++ [i] ∧ s'.tunnel.loopEnded = true ∧ s'.tunnel.clients = s.tunnel.clients ∧
      s'.tunnel.life.closed = true ∧ s'.notes = handlers.flatMap handlerNotes

theorem turnTurned (going : s.tunnel.loopEnded = false) (goes : Goes handlers s .turn s') : Turned handlers s s' := by
  cases goes with
  | idle opened nothing =>
    exact ⟨by simp [opened], fun _ _ => rfl, by simp [nothing], by simp [nothing]⟩
  | takes opened next survived =>
    refine ⟨by simp [opened], by simp [next], fun _ i rest next' _ => ?_, fun _ i rest next' fatal => ?_⟩
    · cases next.symm.trans next'
      exact ⟨rfl, going, rfl, rfl⟩
    · cases next.symm.trans next'
      simp [survived] at fatal
  | fails opened next fatal =>
    refine ⟨by simp [opened], by simp [next], fun _ i rest next' survived => ?_, fun _ i rest next' _ => ?_⟩
    · cases next.symm.trans next'
      simp [fatal] at survived
    · cases next.symm.trans next'
      exact ⟨rfl, rfl, rfl, rfl, rfl⟩
  | stops closed =>
    have shut : s.tunnel.life.closed = true := by rw [closed]; rfl
    exact ⟨fun _ => ⟨rfl, rfl, rfl⟩, by simp [shut], by simp [shut], by simp [shut]⟩

structure Served (admission : Admission) (events : List Event) (s : Serving) : Prop where
  order : s.arrived = s.taken ++ s.tunnel.incoming
  peers : s.tunnel.clients.map Client.peer = s.taken.filterMap (Incoming.admitted admission)
  connects : ∀ index, begun index events ≤ if index < s.tunnel.clients.length then 1 else 0
  survived : ∀ i ∈ s.taken.dropLast, i.isFatal = false
  failed : ∀ i ∈ s.taken, i.isFatal = true → s.tunnel.loopEnded = true
  closed : s.tunnel.life.closed = true ↔ (∃ i ∈ s.taken, i.isFatal = true) ∨ ∃ e ∈ events, e.closes = true
  handlers : s.notes = if s.tunnel.life.closed then (registered events).flatMap handlerNotes else []
  ended : s.tunnel.loopEnded = true → s.tunnel.life.closed = true
  turn : s.tunnel.loopEnded = false → ∃ s', s.happen .turn = some s' ∧ Turned (registered events) s s'
  after : ∀ later u, s.run later = some u → After s u
  -- No call returns before the accept loop has ended; from then on each can.
  waits : ∀ closer : Nat, s.closers[closer]? = some true → s.tunnel.loopEnded = true
  returns : s.tunnel.loopEnded = true → ∀ closer : Nat, s.closers[closer]? = some false →
    ∃ s', s.happen (.look closer) = some s' ∧ s'.closers[closer]? = some true
  late : s.tunnel.loopEnded = true → ∃ s', s.happen .close = some s' ∧ s'.closers = s.closers ++ [true]

theorem soundServed (sound : Sound admission events s) : Served admission events s := by
  obtain ⟨synced, shut, returned⟩ := sound.orderly
  refine ⟨sound.admits.order, sound.admits.relayed, fun index => ?connects, sound.admits.survived, ?failed, ?closed,
    ?handlers, ?ended, fun going => ?turn, fun later u ran => afterRun sound ran, ?waits,
    fun gone closer waits => ?returns, fun gone => ?late⟩
  case connects =>
    have once := sound.once index
    split
    · omega
    · rename_i beyond
      rw [dueBeyond (Nat.not_lt.mp beyond)] at once
      omega
  case failed => exact fun i mem fatal => synced.trans (sound.admits.failed i mem fatal)
  case closed => rw [sound.closed, Bool.or_eq_true, List.any_eq_true, List.any_eq_true]
  case handlers =>
    rcases aliveCases sound.alive with ⟨opened, -, quiet⟩ | ⟨closed, -, told⟩
    · simp [opened, quiet]
    · simp [closed, told]
  case ended => exact fun gone => shut (synced ▸ gone)
  case turn =>
    have happened : s.happen .turn = some s.turn := by simp [happen, ← synced, going]
    exact ⟨_, happened, turnTurned going (soundGoes sound happened)⟩
  case waits => exact fun closer found => synced.trans (returned closer found)
  case returns =>
    obtain ⟨known, -⟩ := List.getElem?_eq_some_iff.mp waits
    refine ⟨{ s with closers := s.closers.set closer s.stopped }, by simp [happen, waits], ?_⟩
    simp [known, ← synced, gone]
  case late =>
    exact ⟨_, rfl, by simp [← synced, gone]⟩

/- Whatever comes to the socket, whatever its clients do, and whoever closes the tunnel, at any time and any
number of times. -/
theorem servesUntilClosed {bufferSize : UInt64} {statistics : Statistics} {endpoint : Endpoint}
    (ran : (begin admission bufferSize statistics endpoint).run events = some s) : Served admission events s :=
  soundServed (soundRun (soundBegin admission bufferSize statistics endpoint) ran)

theorem servesUntilClosedWaiting :
    let admission : Admission := { loopbackOnly := true, admits := fun _ => true }
    let start := begin admission 1024 {} (.v4 .localhost 8080)
    let events : List Event :=
      [.register ⟨"first", [.mark "gone"]⟩, .arrive (.client (.v4 .localhost 40000)),
        .arrive (.client (.v4 ⟨10, 0, 0, 1⟩ 40001)), .arrive (.fault (.plain .connectionAborted)),
        .arrive (.client (.v4 .localhost 40002)), .turn, .turn, .turn, .turn, .act 1 .start,
        .arrive (.client (.v4 .localhost 40003)), .close, .look 0, .turn, .look 0, .close]
    ∃ s, start.run events = some s ∧ Served admission events s ∧
      s.tunnel.clients.map Client.peer = [.v4 .localhost 40000, .v4 .localhost 40002] ∧
      s.closers = [true, true] ∧ s.notes = [.started "first" true, .marked "gone"] := by
  intro admission start events
  have shown : (start.run events).map (fun s => (s.tunnel.clients.map Client.peer, s.closers, s.notes)) =
      some ([.v4 .localhost 40000, .v4 .localhost 40002], [true, true], [.started "first" true, .marked "gone"]) := by
    decide +kernel
  obtain ⟨s, ran, seen⟩ := Option.map_eq_some_iff.mp shown
  simp only [Prod.mk.injEq] at seen
  exact ⟨s, ran, servesUntilClosed ran, seen⟩

end Serving
end TunnelRelay
