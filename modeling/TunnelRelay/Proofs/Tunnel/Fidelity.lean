import TunnelRelay.Proofs.Tunnel.Runs

/-! What the clients of a tunnel get through it. Each gets what the other end of its own
relay sent, in order and nothing else, whatever the other clients do; an end of output
comes after all of it; and a relay that fails takes nothing with it but itself. -/
namespace TunnelRelay.Tunnel

variable {η : Type}

/- The relay of a client lasts, and can deliver all that was sent in a direction, and then its end. -/
def GoesOn (t : Tunnel η) (index : Nat) (c : Client) (d : Direction) (did : List Client.Action) : Prop :=
  c.stage = .relaying ∧ ∃ (moves : List Lane.Move) (u : Tunnel η) (c' : Client),
    t.run (moves.map fun m => .act index (.move d m)) = some u ∧ u.clients[index]? = some c' ∧
    (c'.lane d).delivered = Client.said d did ∧ (did.any (Client.Action.ends d) = true → c'.closedFor d = true)

structure Dropped (t u : Tunnel η) (index : Nat) (c : Client) : Prop where
  life : u.life = t.life
  loopEnded : u.loopEnded = t.loopEnded
  others : ∀ i, i ≠ index → u.clients[i]? = t.clients[i]?
  ended : ∀ later v, u.run later = some v → ∃ c', v.clients[index]? = some c' ∧ c'.stage = .ended ∧
    ∀ d, c'.closedFor d = true ∧ (c'.lane d).delivered = (c.lane d).delivered

structure Relayed (t : Tunnel η) (index : Nat) (c : Client) (did : List Client.Action) : Prop where
  alone : Client.run t.capacity { peer := c.peer } did = some c
  part : ∀ d, (c.lane d).delivered <+: Client.said d did
  cut : .cut ∈ did → t.life.closed = true
  whole : Client.Undisturbed did → ∀ d, c.closedFor d = true →
    .connected ∈ did ∧ did.any (Client.Action.ends d) = true ∧ (c.lane d).delivered = Client.said d did
  lasts : Client.Undisturbed did → .connected ∈ did → ∀ d, c.closedFor d = false → GoesOn t index c d did
  fails : ∀ a u, t.step (.act index a) = some u → a.fails = true → Dropped t u index c

variable {t u : Tunnel η} {index : Nat} {c : Client} {d : Direction} {did : List Client.Action} {capacity : Nat}
  {peer : Endpoint} {a : Client.Action}

theorem closedWhole (ran : Client.run capacity { peer } did = some c) (undisturbed : Client.Undisturbed did)
    (closed : c.closedFor d = true) :
    .connected ∈ did ∧ did.any (Client.Action.ends d) = true ∧ (c.lane d).delivered = Client.said d did := by
  have staged := Client.runStaged ran
  have faithful := (Client.runCarried ran d).faithful
  have finished : (c.lane d).pump.stage = .finished := by
    simp only [Client.closedFor, Bool.or_eq_true, decide_eq_true_eq] at closed
    exact closed.elim faithful.shut.mp (staged.ended undisturbed · d)
  refine ⟨Classical.not_not.mp fun absent => ?_, (faithful.drained (.inr finished)).2, ?_⟩
  · simp [((staged.before absent).2 d).2] at finished
  · exact (Lane.doneFinished faithful finished).1

theorem openGoesOn (room : 0 < t.capacity) (found : t.clients[index]? = some c)
    (ran : Client.run t.capacity { peer } did = some c) (connected : .connected ∈ did)
    (opened : c.closedFor d = false) : GoesOn t index c d did := by
  have staged := Client.runStaged ran
  simp only [Client.closedFor, Bool.or_eq_false_iff, decide_eq_false_iff_not] at opened
  have relaying : c.stage = .relaying := (staged.after connected).resolve_right opened.2
  obtain ⟨moves, c', moved, delivered, shut⟩ :=
    Client.drains room relaying (staged.relaying relaying) (Client.runCarried ran d).faithful
  obtain ⟨u, ran', found'⟩ := actsRun found moved (by simp)
  rw [List.map_map] at ran'
  refine ⟨relaying, moves, u, c', ran', found', delivered, fun ends => ?_⟩
  simp [Client.closedFor, shut ends]

theorem failsDropped (found : t.clients[index]? = some c) (stepped : t.step (.act index a) = some u)
    (fails : a.fails = true) : Dropped t u index c := by
  obtain ⟨-, x, c', n, found', after, rfl⟩ := actCases (show t.act index a = some u from stepped)
  cases found.symm.trans found'
  obtain ⟨known, -⟩ := List.getElem?_eq_some_iff.mp found
  obtain ⟨ended, delivered⟩ := Client.failsEnds (Client.does after) fails
  have here : (t.clients.set index c')[index]? = some c' := by simp [known]
  refine ⟨rfl, rfl, fun i other => by simp [Ne.symm other], fun later v ran => ?_⟩
  obtain ⟨c'', found'', -, ran'⟩ := runOwn ran here
  obtain ⟨ended', delivered'⟩ := Client.runEnded ran' ended
  exact ⟨c'', found'', ended', fun d => ⟨by simp [Client.closedFor, ended'], (delivered' d).trans (delivered d)⟩⟩

/- However the clients of a tunnel, their ends and their pumps fall together. -/
theorem relaysFaithful {admission : Admission} {bufferSize : UInt64} {statistics : Statistics}
    {endpoint : Option Endpoint} {steps : List (Step η)} {t : Tunnel η}
    (ran : run { make admission bufferSize statistics with endpoint } steps = some t) :
    ∀ index c, t.clients[index]? = some c → Relayed t index c (own index steps) := by
  intro index c found
  have alone := (runAlone rfl ran).1 index c found
  have room : 0 < t.capacity := by
    rw [(runFrame ran).2]
    exact Nat.lt_of_lt_of_le Nat.one_pos (Nat.le_max_left ..)
  exact {
    alone
    part := fun d => (Client.runCarried alone d).faithful.part
    cut := (runClosed (by simp [make]) ran).2 index
    whole := fun undisturbed d closed => closedWhole alone undisturbed closed
    lasts := fun _ connected d opened => openGoesOn room found alone connected opened
    fails := fun a u stepped fails => failsDropped found stepped fails }

def pair : List (Step Unit) :=
  [.arrive (.client (.v4 .localhost 40000)), .arrive (.client (.v4 .localhost 40001)), .accept, .accept,
    .act 0 .start, .act 1 .start, .act 0 .connected, .act 1 (.send .toRemote [9]), .act 0 (.send .toRemote [1, 2]),
    .act 0 (.move .toRemote (.read 2)), .act 1 .refused, .act 0 (.move .toRemote (.write 1))]

theorem relaysFaithfulPair : ∃ t c, run { make ⟨true, fun _ => true⟩ 4 {} with endpoint := none } pair = some t ∧
    t.clients[0]? = some c ∧ (c.lane .toRemote).delivered = [1] ∧ Relayed t 0 c (own 0 pair) :=
  ⟨_, _, rfl, rfl, rfl, @relaysFaithful Unit ⟨true, fun _ => true⟩ 4 {} none pair _ rfl 0 _ rfl⟩

end TunnelRelay.Tunnel
