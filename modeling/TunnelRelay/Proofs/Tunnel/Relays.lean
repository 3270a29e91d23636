import TunnelRelay.Proofs.Relay.Clients
import TunnelRelay.Proofs.Tunnel.Frames
import TunnelRelay.Tunnel.Tasks

/-! The relays of a tunnel that is closed. Nobody is admitted any more and every relay ends
when its task runs next; but a task that looks at its relay before its token may still
connect, and deliver and count what was there. Only if each looks at its token first is
there nothing more. -/
namespace TunnelRelay

namespace Client

def Action.silent : Action → Bool
  | broken | cut | send .. | finish _ => true
  | _ => false

variable {capacity counted : Nat} {c c' : Client} {a : Action}

theorem afterSilent (after : c.after capacity a = some (c', counted)) (silent : a.silent = true ∨ c.stage = .ended) :
    counted = 0 ∧ Tunnel.begins a = 0 ∧ ∀ d, (c'.lane d).delivered = (c.lane d).delivered := by
  cases does after with
  | start at' | connected at' | refused at' | move at' => simp [Action.silent, at'] at silent
  | broken | cut => exact ⟨rfl, rfl, fun d => by rw [stageLane]⟩
  | send d bytes => exact ⟨rfl, rfl, setLaneKept Lane.delivered (Lane.sendDelivered ..)⟩
  | finish d => exact ⟨rfl, rfl, setLaneKept Lane.delivered rfl⟩

theorem afterStage (after : c.after capacity a = some (c', counted)) :
    (c.stage = .ended → c'.stage = .ended) ∧
      (if c'.stage = .waiting then 1 else 0) + Tunnel.begins a ≤ if c.stage = .waiting then 1 else 0 := by
  cases does after with
  | broken at' | start at' | connected at' | refused at' => simp [Tunnel.begins, at']
  | cut => simp [Tunnel.begins]
  | @move d m l n at' moved =>
    rcases settleStage (c.setLane d l) with same | ended
    · simp [same, setLaneStage, at', Tunnel.begins]
    · simp [ended, at', Tunnel.begins]
  | send d bytes | finish d => simp [setLaneStage, Tunnel.begins]

end Client

namespace Tunnel

variable {η : Type} {t t' u : Tunnel η}

def Over (t : Tunnel η) (index : Nat) : Prop := ∃ c : Client, t.clients[index]? = some c ∧ c.stage = .ended

structure Ebbs (t t' : Tunnel η) : Prop where
  cancelled : t.life.cancelled = true → t'.life.cancelled = true
  clients : t'.clients.length = t.clients.length
  connects : t.connects ≤ t'.connects
  waiting : t'.connects + t'.waiting ≤ t.connects + t.waiting
  gone : ∀ index, t.Over index → t'.Over index

theorem ebbsIdle (cancelled : t.life.cancelled = true → t'.life.cancelled = true) (clients : t'.clients = t.clients)
    (connects : t'.connects = t.connects) : Ebbs t t' := by
  refine ⟨cancelled, congrArg List.length clients, Nat.le_of_eq connects.symm, ?_, fun index ended => ?_⟩
  · exact Nat.le_of_eq (by rw [waiting, waiting, clients, connects])
  · rwa [Over, clients]

theorem ebbsTrans (first : Ebbs t t') (second : Ebbs t' u) : Ebbs t u :=
  ⟨second.cancelled ∘ first.cancelled, second.clients.trans first.clients, Nat.le_trans first.connects second.connects,
    Nat.le_trans second.waiting first.waiting, fun index ended => second.gone index (first.gone index ended)⟩

theorem actEbbs {index : Nat} {a : Client.Action} (acted : t.act index a = some t') : Ebbs t t' := by
  obtain ⟨-, c, c', counted, found, after, rfl⟩ := actCases acted
  obtain ⟨stays, count⟩ := Client.afterStage after
  obtain ⟨known, found'⟩ := List.getElem?_eq_some_iff.mp found
  refine ⟨id, by simp, by simp, ?_, ?_⟩
  · have one : (if c.stage = .waiting then 1 else 0) ≤ t.clients.countP (·.stage = .waiting) := by
      split
      · rename_i waits
        exact List.countP_pos_iff.mpr ⟨c, List.mem_of_getElem? found, by simpa using waits⟩
      · omega
    simp only [waiting, List.countP_set known, found', decide_eq_true_eq]
    omega
  · rintro i ⟨x, at', ended⟩
    by_cases same : i = index
    · subst same
      cases found.symm.trans at'
      exact ⟨c', by simp [known], stays ended⟩
    · exact ⟨x, by simpa [List.getElem?_set, Ne.symm same] using at', ended⟩

theorem actAllAppend (t : Tunnel η) (index : Nat) (first second : List Client.Action) :
    t.actAll index (first ++ second) = (t.actAll index first).actAll index second :=
  List.foldl_append

theorem actAllKeeps {P : Tunnel η → Prop} {index : Nat} {actions : List Client.Action} (before : P t)
    (keeps : ∀ u u', ∀ a ∈ actions, P u → u.act index a = some u' → P u') : P (t.actAll index actions) := by
  unfold actAll
  induction actions generalizing t with
  | nil => exact before
  | cons a rest ih =>
    rw [List.foldl_cons]
    refine ih ?_ fun u u' b mem => keeps u u' b (List.mem_cons_of_mem _ mem)
    cases acted : t.act index a with
    | none => exact before
    | some u => exact keeps t u a (by simp) before acted

theorem actAllEbbs (t : Tunnel η) (index : Nat) (actions : List Client.Action) : Ebbs t (t.actAll index actions) :=
  actAllKeeps (ebbsIdle id rfl rfl) fun _ _ _ _ before acted => ebbsTrans before (actEbbs acted)

theorem disposeCancelled {l : Lifecycle η} (cancelled : l.cancelled = true) : l.dispose.1.cancelled = true := by
  cases closed : l.closed with
  | false => rw [Lifecycle.disposeOpen closed]
  | true => rw [Lifecycle.disposeAgain closed, cancelled]

theorem happenEbbs (cancelled : t.life.cancelled = true) (e : Event) : Ebbs t (t.happen e) := by
  cases e with
  | arrive i =>
    refine ebbsIdle (fun h => (arriveSame t i).life ▸ h) ?_ ?_ <;> simp only [happen, arrive] <;> split <;> rfl
  | accept =>
    refine ebbsIdle (fun h => (pollSame t).life ▸ h) ?_ ?_ <;> simp only [happen, poll, cancelled] <;> split <;> rfl
  | relay index turn => exact actAllEbbs t index _
  | peer index d bytes => cases bytes <;> exact actAllEbbs t index _
  | close => exact ebbsIdle (fun _ => disposeCancelled cancelled) rfl rfl

theorem runEbbs (cancelled : t.life.cancelled = true) (events : List Event) : Ebbs t (events.foldl happen t) := by
  induction events generalizing t with
  | nil => exact ebbsIdle id rfl rfl
  | cons e rest ih =>
    have first := happenEbbs cancelled e
    exact ebbsTrans first (ih (first.cancelled cancelled))

theorem quietRefl (t : Tunnel η) : Quiet t t := ⟨rfl, rfl, fun _ _ => rfl⟩

theorem quietTrans (first : Quiet t t') (second : Quiet t' u) : Quiet t u :=
  ⟨second.connects.trans first.connects, second.statistics.trans first.statistics,
    fun index d => (second.delivered index d).trans (first.delivered index d)⟩

theorem quietIdle (clients : t'.clients = t.clients) (connects : t'.connects = t.connects)
    (statistics : t'.statistics = t.statistics) : Quiet t t' :=
  ⟨connects, statistics, fun index d => by rw [delivered, delivered, clients]⟩

theorem countNothing (s : Statistics) (d : Direction) : s.count d (UInt64.ofNat 0) = s := by
  cases d <;> simp [Statistics.count, Statistics.addTransmitted, Statistics.addReceived]

theorem actQuiet {index : Nat} {a : Client.Action} (silent : a.silent = true ∨ t.Over index)
    (acted : t.act index a = some t') : Quiet t t' := by
  obtain ⟨-, c, c', counted, found, after, rfl⟩ := actCases acted
  have ended : a.silent = true ∨ c.stage = .ended := by
    rcases silent with silent | ⟨x, found', ended⟩
    · exact .inl silent
    · cases found.symm.trans found'
      exact .inr ended
  obtain ⟨rfl, begun, same⟩ := Client.afterSilent after ended
  refine ⟨by simp [begun], countNothing _ _, fun i d => ?_⟩
  obtain ⟨known, found'⟩ := List.getElem?_eq_some_iff.mp found
  by_cases here : i = index
  · subst here
    simp [delivered, known, found', same]
  · simp [delivered, Ne.symm here]

theorem actAllQuiet {index : Nat} {actions : List Client.Action}
    (silent : (∀ a ∈ actions, a.silent = true) ∨ t.Over index) : Quiet t (t.actAll index actions) := by
  have kept : Quiet t (t.actAll index actions) ∧ Ebbs t (t.actAll index actions) := by
    refine actAllKeeps (P := fun u => Quiet t u ∧ Ebbs t u) ⟨quietRefl t, ebbsIdle id rfl rfl⟩
      fun u u' a mem ⟨quiet, ebbs⟩ acted => ?_
    refine ⟨quietTrans quiet (actQuiet ?_ acted), ebbsTrans ebbs (actEbbs acted)⟩
    exact silent.imp (· a mem) (ebbs.gone index)
  exact kept.1

theorem actMissing {index : Nat} (missing : t.clients.length ≤ index) (actions : List Client.Action) :
    t.actAll index actions = t := by
  induction actions with
  | nil => rfl
  | cons a rest ih => simpa [actAll, act, missing] using ih

theorem happenQuiet (cancelled : t.life.cancelled = true) (e : Event)
    (calm : e.tokenFirst = true ∨ ∀ index < t.clients.length, t.Over index) : Quiet t (t.happen e) := by
  cases e with
  | arrive i => refine quietIdle ?_ ?_ ?_ <;> simp only [happen, arrive] <;> split <;> rfl
  | accept => refine quietIdle ?_ ?_ ?_ <;> simp only [happen, poll, cancelled] <;> split <;> rfl
  | relay index turn =>
    rcases calm with first | ended
    · have cut : t.relay index turn = t.actAll index [.cut] := by
        have first' : turn.tokenFirst = true := first
        simp [relay, first', cancelled]
      rw [happen, cut]
      exact actAllQuiet (.inl (by simp [Client.Action.silent]))
    · by_cases known : index < t.clients.length
      · exact actAllQuiet (.inr (ended index known))
      · rw [happen, relay, actMissing (Nat.le_of_not_lt known)]
        exact quietRefl t
  | peer index d bytes => cases bytes <;> exact actAllQuiet (.inl (by simp [Client.Action.silent]))
  | close => exact quietIdle rfl rfl rfl

theorem runQuiet (cancelled : t.life.cancelled = true) (events : List Event)
    (calm : (∀ e ∈ events, e.tokenFirst = true) ∨ ∀ index < t.clients.length, t.Over index) :
    Quiet t (events.foldl happen t) := by
  induction events generalizing t with
  | nil => exact quietRefl t
  | cons e rest ih =>
    have ebbs := happenEbbs cancelled e
    refine quietTrans (happenQuiet cancelled e (calm.imp (· e (by simp)) id)) (ih (ebbs.cancelled cancelled) ?_)
    refine calm.imp (fun first e' mem => first e' (List.mem_cons_of_mem _ mem)) fun ended index known => ?_
    exact ebbs.gone index (ended index (ebbs.clients ▸ known))

theorem relayOver (cancelled : t.life.cancelled = true) {index : Nat} (known : index < t.clients.length)
    (turn : Turn) : (t.relay index turn).Over index := by
  obtain ⟨progress, split⟩ : ∃ progress, t.relay index turn = (t.actAll index progress).actAll index [.cut] :=
    ⟨_, actAllAppend t index _ [.cut]⟩
  rw [split]
  have ebbs := actAllEbbs t index progress
  generalize t.actAll index progress = u at ebbs
  have known' : index < u.clients.length := ebbs.clients ▸ known
  have found : u.clients[index]? = some u.clients[index] := List.getElem?_eq_getElem known'
  by_cases ended : u.clients[index].stage = .ended
  · exact (actAllEbbs u index [.cut]).gone index ⟨_, found, ended⟩
  · refine ⟨{ u.clients[index] with stage := .ended }, ?_, rfl⟩
    simp [actAll, act, ebbs.cancelled cancelled, Client.after, ended, known']

theorem runOver (cancelled : t.life.cancelled = true) {events : List Event} {index : Nat} {turn : Turn}
    (ran : .relay index turn ∈ events) (known : index < t.clients.length) :
    (events.foldl happen t).Over index := by
  obtain ⟨first, second, rfl⟩ := List.append_of_mem ran
  rw [List.foldl_append, List.foldl_cons]
  have ebbs := runEbbs cancelled first
  have cancelled' := ebbs.cancelled cancelled
  have ended : ((first.foldl happen t).happen (.relay index turn)).Over index :=
    relayOver cancelled' (ebbs.clients ▸ known) turn
  exact (runEbbs ((happenEbbs cancelled' _).cancelled cancelled') second).gone index ended

theorem startsLate {index : Nat} {c : Client} (found : t.clients[index]? = some c) (waits : c.stage = .waiting) :
    (t.happen (.relay index { progress := [.start] })).connects = t.connects + 1 := by
  have known : index < t.clients.length := (List.getElem?_eq_some_iff.mp found).1
  have started : t.act index .start = some { t with
      clients := t.clients.set index { c with stage := .connecting }
      connects := t.connects + 1 } := by
    simp [act, found, Client.after, waits, Client.Action.direction, Statistics.count, Statistics.addTransmitted]
  simp only [happen, relay, actAll, Bool.false_and, Bool.false_eq_true, if_false, List.cons_append, List.nil_append,
    List.foldl_cons, List.foldl_nil, started, Option.getD_some]
  cases cut : ({ t with clients := t.clients.set index { c with stage := .connecting }, connects := t.connects + 1 } :
      Tunnel η).act index .cut with
  | none => rfl
  | some u =>
    obtain ⟨-, c', c'', counted, -, -, rfl⟩ := actCases cut
    rfl

/- After its close a tunnel admits nobody, and a client's relay is over as soon as its task has run.
Nothing is connected, delivered or counted any more if the tasks look at their tokens first, or once all
relays are over; else there may be one more connection for each client whose task had not run, and there
is no other. -/
theorem closeEndsRelays (cancelled : t.life.cancelled = true) (events : List Event) :
    let t' := events.foldl happen t
    t'.clients.length = t.clients.length ∧
      (∀ index turn, .relay index turn ∈ events → index < t.clients.length → t'.Over index) ∧
      ((∀ e ∈ events, e.tokenFirst = true) ∨ (∀ index < t.clients.length, t.Over index) → Quiet t t') ∧
      t'.connects ≤ t.connects + t.waiting ∧
      ((∃ more : List Event, (more.foldl happen t).connects ≠ t.connects) ↔ t.waiting ≠ 0) := by
  have ebbs := runEbbs cancelled events
  have bound (events : List Event) : (events.foldl happen t).connects ≤ t.connects + t.waiting :=
    Nat.le_trans (Nat.le_add_right _ _) (runEbbs cancelled events).waiting
  refine ⟨ebbs.clients, fun index turn ran known => runOver cancelled ran known, runQuiet cancelled events,
    bound events, ⟨fun ⟨more, changed⟩ => ?late, fun some => ?missed⟩⟩
  case late =>
    have grown := (runEbbs cancelled more).connects
    have limit := bound more
    omega
  case missed =>
    obtain ⟨c, mem, waits⟩ := List.countP_pos_iff.mp (Nat.pos_of_ne_zero some)
    obtain ⟨index, found⟩ := List.getElem?_of_mem mem
    refine ⟨[.relay index { progress := [.start] }], ?_⟩
    rw [List.foldl_cons, List.foldl_nil, startsLate found (by simpa using waits)]
    omega

def interrupted : List Event :=
  [.arrive (.client (.v4 .localhost 40000)), .accept, .relay 0 { progress := [.start, .connected] },
    .peer 0 .toRemote (some [1, 2, 3]), .arrive (.client (.v4 .localhost 40001)), .accept, .close]

/- If both tasks look at their relays first, there is another connection, and the bytes go through and are counted. -/
theorem closedRelaysGoOn :
    let t := interrupted.foldl happen (.make ⟨true, fun _ => true⟩ 1024 {} : Tunnel Unit)
    let passes : List Client.Action :=
      [.move .toRemote (.read 3), .move .toRemote (.write 3), .move .toRemote .flush]
    let t' := [.relay 1 { progress := [.start] }, .relay 0 { progress := passes }].foldl happen t
    t.life.closed = true ∧ t.connects = 1 ∧ t'.connects = 2 ∧
      t.delivered 0 .toRemote = some [] ∧ t'.delivered 0 .toRemote = some [1, 2, 3] ∧
      t.statistics = ⟨0, 0⟩ ∧ t'.statistics = ⟨0, 3⟩ ∧ ¬ Quiet t t' := by
  refine ⟨by decide, by decide, by decide, by decide, by decide, by decide, by decide, fun quiet => ?_⟩
  exact absurd quiet.connects (by decide)

theorem closeEndsRelaysInterrupted :
    let t := interrupted.foldl happen (.make ⟨true, fun _ => true⟩ 1024 {} : Tunnel Unit)
    let t' := [.relay 1 { tokenFirst := true, progress := [.start] }, .relay 0 { tokenFirst := true }].foldl happen t
    Quiet t t' ∧ t'.Over 0 ∧ t'.Over 1 ∧ ∃ more : List Event, (more.foldl happen t).connects ≠ t.connects := by
  intro t t'
  have cancelled : t.life.cancelled = true := by decide
  obtain ⟨-, ended, quiet, -, late⟩ := closeEndsRelays cancelled
    [.relay 1 { tokenFirst := true, progress := [.start] }, .relay 0 { tokenFirst := true }]
  exact ⟨quiet (.inl (by simp [Event.tokenFirst])), ended 0 { tokenFirst := true } (by simp) (by decide),
    ended 1 { tokenFirst := true, progress := [.start] } (by simp) (by decide), late.mpr (by decide)⟩

end Tunnel
end TunnelRelay
