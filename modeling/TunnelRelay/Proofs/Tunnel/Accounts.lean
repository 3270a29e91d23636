import TunnelRelay.Pool.Making
import TunnelRelay.Proofs.Tunnel.Runs

/-! The byte counters of a tunnel. Only a flush counts, and it counts the chunk that it
completes; so the counters are those of a ledger of all completed chunks, modulo their
width, and what was delivered and not counted lies in the chunks at hand. -/
namespace TunnelRelay

def Statistics.counter (s : Statistics) : Direction → UInt64
  | .toRemote => s.transmitted
  | .toClient => s.received

theorem Statistics.counterCount (s : Statistics) (d d' : Direction) (n : Nat) :
    ((s.count d (.ofNat n)).counter d').toNat =
      ((s.counter d').toNat + if d = d' then n else 0) % UInt64.size := by
  cases d <;> cases d' <;>
    simp [count, counter, addTransmitted, addReceived, Nat.mod_eq_of_lt (UInt64.toNat_lt_size _), UInt64.toNat_add]

namespace Tunnel

variable {η : Type} {t t' u : Tunnel η} {s : Step η} {past steps : List (Step η)} {index n : Nat} {a : Client.Action}
  {c c' : Client} {d : Direction}

theorem completedSame (same : ∀ i, i < n → own i [s] = []) : completed d (past ++ [s]) n = completed d past n := by
  induction n with
  | zero => rfl
  | succ n ih =>
    simp only [completed]
    rw [ih fun i below => same i (Nat.lt_succ_of_lt below), ownAppend, same n (Nat.lt_succ_self n), List.append_nil]

theorem completedGrows {clients : Nat} (known : index < clients)
    (grown : (Client.chunks d (own index (past ++ [s]))).completed = (Client.chunks d (own index past)).completed + n)
    (others : ∀ i, i ≠ index → own i [s] = []) :
    completed d (past ++ [s]) clients = completed d past clients + n := by
  induction clients with
  | zero => contradiction
  | succ clients ih =>
    simp only [completed]
    by_cases last : index = clients
    · subst last
      rw [completedSame fun i below => others i (Nat.ne_of_lt below), grown, Nat.add_assoc]
    · rw [ih (by omega), ownAppend, others clients (Ne.symm last), List.append_nil]
      omega

theorem stepCounter (takes : Takes t s t') (d : Direction)
    (present : ∀ index c, t.clients[index]? = some c →
      Client.run t.capacity { peer := c.peer } (own index past) = some c)
    (absent : ∀ index, t.clients[index]? = none → own index past = []) :
    ∃ n, (t'.statistics.counter d).toNat = ((t.statistics.counter d).toNat + n) % UInt64.size ∧
      completed d (past ++ [s]) t'.clients.length = completed d past t.clients.length + n := by
  have fits : (t.statistics.counter d).toNat % UInt64.size = (t.statistics.counter d).toNat :=
    Nat.mod_eq_of_lt (UInt64.toNat_lt_size _)
  cases takes with
  | @act index a c c' n allowed found after =>
    obtain ⟨known, -⟩ := List.getElem?_eq_some_iff.mp found
    have carried := Client.runCarried (present index c found) d
    have grown := (Client.carriedTouched carried (Client.touches (Client.does after) d)).2
    refine ⟨_, Statistics.counterCount .., ?_⟩
    rw [List.length_set]
    refine completedGrows known ?_ fun i other => ownOther (by simp [Ne.symm other])
    rw [ownAppend, ownAct, grown]
  | @join peer rest next allowed =>
    refine ⟨0, by rw [Nat.add_zero, fits], ?_⟩
    rw [List.length_append, completedSame fun i _ => ownOther (by simp)]
    simp [completed, absent t.clients.length (by simp), Client.chunks, Client.moves, Chunks.ofMoves]
  | turn refused idle =>
    refine ⟨0, by rw [Nat.add_zero, fits, idle.statistics], ?_⟩
    rw [idle.clients, completedSame fun i _ => ownOther (by simp), Nat.add_zero]
  | other unacted unasked idle =>
    refine ⟨0, by rw [Nat.add_zero, fits, idle.statistics], ?_⟩
    rw [idle.clients, completedSame fun i _ => ownOther (unacted i), Nat.add_zero]

theorem runCounter (start : t.clients = []) (ran : t.run steps = some u) (d : Direction) :
    (u.statistics.counter d).toNat =
      ((t.statistics.counter d).toNat + completed d steps u.clients.length) % UInt64.size := by
  induction steps using List.reverseRecOn generalizing u with
  | nil =>
    cases ran
    simp [start, completed, Nat.mod_eq_of_lt (UInt64.toNat_lt_size _)]
  | append_singleton past s ih =>
    obtain ⟨b, before, last⟩ := runLast ran
    obtain ⟨present, absent⟩ := runAlone start before
    obtain ⟨n, counted, grown⟩ := stepCounter (stepTakes last) d present absent
    rw [counted, ih before, grown, Nat.mod_add_mod, Nat.add_assoc]

theorem onlyFlushCounts (takes : Takes t s t') (other : ∀ index d, s ≠ .act index (.move d .flush)) :
    t'.statistics = t.statistics := by
  cases takes with
  | @act index a c c' n allowed found after =>
    have nothing : n = 0 := by
      cases Client.does after with
      | @move d m l n at' moved =>
        obtain ⟨_, _, went⟩ := Lane.afterWent moved
        exact Lane.flushCounts went fun same => other index d (by rw [same])
      | _ => rfl
    subst nothing
    cases direction : a.direction <;> simp [Statistics.count, Statistics.addTransmitted, Statistics.addReceived]
  | join next allowed => rfl
  | turn refused idle => exact idle.statistics
  | other unacted unasked idle => exact idle.statistics

theorem unconnectedNothing {capacity : Nat} {peer : Endpoint} {did : List Client.Action}
    (ran : Client.run capacity { peer } did = some c) (absent : .connected ∉ did) (d : Direction) :
    Client.chunks d did = {} := by
  rw [Client.chunks, (((Client.runStaged ran).before absent).2 d).1]
  rfl

theorem restingBytes {clients : List Client}
    (all : ∀ index c, clients[index]? = some c →
      (Client.chunks d (own index steps)).completed = (c.lane d).delivered.length) :
    completed d steps clients.length = bytes d clients := by
  have bytesLast (first : List Client) (c : Client) :
      bytes d (first ++ [c]) = bytes d first + (c.lane d).delivered.length := by
    induction first with
    | nil => simp [bytes]
    | cons head rest ih => simp [bytes, ih, Nat.add_assoc]
  induction clients using List.reverseRecOn with
  | nil => rfl
  | append_singleton first c ih =>
    rw [List.length_append, bytesLast]
    have last := all first.length c (by simp)
    have before : ∀ index c, first[index]? = some c →
        (Client.chunks d (own index steps)).completed = (c.lane d).delivered.length := fun index x found => by
      obtain ⟨known, -⟩ := List.getElem?_eq_some_iff.mp found
      exact all index x (by rwa [List.getElem?_append_left known])
    simp only [List.length_singleton, completed]
    rw [ih before, last]

theorem restingCompleted {capacity : Nat} {k : Chunks} {l : Lane} (counted : Lane.Counted capacity k l)
    (rests : l.pump.rests = true) : k.completed = l.delivered.length := by
  have none' := counted.resting rests
  have most := counted.current
  exact Nat.le_antisymm counted.completed (by omega)

end Tunnel

namespace Service

variable {α : Type} {f : Tunnel ProfileKey → α}

theorem disposeTunnels (s : Service) (t i : Nat) (kept : ∀ x life, f { x with life } = f x) :
    (s.dispose t).tunnels[i]?.map f = s.tunnels[i]?.map f := by
  have told (handlers : List ProfileKey) (s : Service) : (handlers.foldl (runHandler t) s).tunnels = s.tunnels := by
    induction handlers generalizing s with
    | nil => rfl
    | cons k rest ih =>
      rw [List.foldl_cons, ih]
      unfold runHandler
      split <;> rfl
  unfold dispose
  cases found : s.tunnels[t]? with
  | none => rfl
  | some x =>
    dsimp only
    rw [told, setLife, found]
    obtain ⟨known, here⟩ := List.getElem?_eq_some_iff.mp found
    by_cases same : t = i
    · subst same
      simp [known, here, kept]
    · simp [same]

theorem followTunnels (s : Service) (m : Making) (creation : Creation) (i : Nat)
    (kept : ∀ x life, f { x with life } = f x) : (s.follow m creation).1.tunnels[i]?.map f = s.tunnels[i]?.map f := by
  unfold follow
  dsimp only
  split
  · split
    · exact disposeTunnels s _ i kept
    · rfl
  · rfl

theorem makingTunnels (s : Service) (limit : Duration) (m : Making) (turn : Making.Turn) (i : Nat)
    (inside : ∀ h, turn ≠ .outside h) (kept : ∀ x life, f { x with life } = f x) :
    (turnMaking limit (s, m) turn).1.tunnels[i]?.map f = s.tunnels[i]?.map f := by
  cases turn with
  | poll sight =>
    simp only [turnMaking, pollMaking]
    split
    · rw [followTunnels _ _ _ i kept, followTunnels _ _ _ i kept]
    · exact followTunnels s m _ i kept
  | drop => exact followTunnels s m _ i kept
  | outside h => exact absurd rfl (inside h)

end Service

namespace Tunnel

structure Accounted (capacity : Nat) (initial : Statistics) (steps : List (Step η)) (t : Tunnel η) : Prop where
  transmitted : t.statistics.transmitted.toNat =
    (initial.transmitted.toNat + completed .toRemote steps t.clients.length) % UInt64.size
  received : t.statistics.received.toNat =
    (initial.received.toNat + completed .toClient steps t.clients.length) % UInt64.size
  counted : ∀ (index : Nat) (c : Client), t.clients[index]? = some c → ∀ d,
    Lane.Counted capacity (Client.chunks d (own index steps)) (c.lane d)
  shut : ∀ (index : Nat) (c : Client), t.clients[index]? = some c →
    ∀ d, (c.lane d).shut = true → (c.lane d).pump.rests = true
  resting : (∀ (index : Nat) (c : Client), t.clients[index]? = some c → ∀ d, (c.lane d).pump.rests = true) →
    t.statistics.transmitted.toNat = (initial.transmitted.toNat + bytes .toRemote t.clients) % UInt64.size ∧
    t.statistics.received.toNat = (initial.received.toNat + bytes .toClient t.clients) % UInt64.size
  unconnected : ∀ index d, .connected ∉ own index steps → Client.chunks d (own index steps) = {}
  flushes : ∀ s u, t.step s = some u → (∀ index d, s ≠ .act index (.move d .flush)) → u.statistics = t.statistics

/- However the clients of a tunnel and their pumps fall together; and making the tunnel counts nothing. -/
theorem statisticsExact {admission : Admission} {bufferSize : UInt64} {statistics : Statistics}
    {endpoint : Option Endpoint} {steps : List (Step η)} {t : Tunnel η}
    (ran : run { make admission bufferSize statistics with endpoint } steps = some t) :
    Accounted (max 1 bufferSize.toNat) statistics steps t ∧
      ∀ (s : Service) (limit : Duration) (m : Making) (turn : Making.Turn) (i : Nat), (∀ h, turn ≠ .outside h) →
        (Service.turnMaking limit (s, m) turn).1.tunnels[i]?.map Tunnel.statistics =
          s.tunnels[i]?.map Tunnel.statistics := by
  obtain ⟨present, absent⟩ := runAlone rfl ran
  have capacity : t.capacity = max 1 bufferSize.toNat := (runFrame ran).2
  have counters := runCounter rfl ran
  have counted : ∀ index c, t.clients[index]? = some c → ∀ d,
      Lane.Counted t.capacity (Client.chunks d (own index steps)) (c.lane d) := fun index c found d =>
    (Client.runCarried (present index c found) d).counted
  refine ⟨⟨counters .toRemote, counters .toClient, capacity ▸ counted, fun index c found d shut => ?_, fun rests => ?_,
    fun index d unconnected => ?_, fun s u stepped => onlyFlushCounts (stepTakes stepped)⟩,
    fun s limit m turn i inside => Service.makingTunnels s limit m turn i inside fun _ _ => rfl⟩
  · have finished := (Client.runCarried (present index c found) d).faithful.shut.mp shut
    simp [Pump.rests, finished]
  · have all (d : Direction) : completed d steps t.clients.length = bytes d t.clients :=
      restingBytes fun index c found => restingCompleted (counted index c found d) (rests index c found d)
    exact ⟨all .toRemote ▸ counters .toRemote, all .toClient ▸ counters .toClient⟩
  · cases found : t.clients[index]? with
    | none =>
      rw [absent index found]
      rfl
    | some c => exact unconnectedNothing (present index c found) unconnected d

def chunkAndPart : List (Step Unit) :=
  [.arrive (.client (.v4 .localhost 40000)), .accept, .act 0 .start, .act 0 .connected,
    .act 0 (.send .toRemote [1, 2, 3, 4]), .act 0 (.move .toRemote (.read 2)), .act 0 (.move .toRemote (.write 2)),
    .act 0 (.move .toRemote .flush), .act 0 (.move .toRemote (.read 2)), .act 0 (.move .toRemote (.write 1))]

theorem statisticsExactChunkAndPart : ∃ t : Tunnel Unit,
    run { make ⟨true, fun _ => true⟩ 2 ⟨0, 18446744073709551615⟩ with endpoint := none } chunkAndPart = some t ∧
    t.statistics.transmitted = 1 ∧ bytes .toRemote t.clients = 3 ∧
    Accounted 2 ⟨0, 18446744073709551615⟩ chunkAndPart t :=
  ⟨_, rfl, rfl, rfl,
    (@statisticsExact Unit ⟨true, fun _ => true⟩ 2 ⟨0, 18446744073709551615⟩ none chunkAndPart _ rfl).1⟩

end Tunnel
end TunnelRelay
