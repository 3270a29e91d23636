import Mathlib.Data.List.Induction
import TunnelRelay.Proofs.Relay.Lanes

/-! The relay of one client over all its actions. Each of its lanes carries what its source
sent, whatever the other lane and the stage of the relay do; the relay lasts until both
lanes have finished, unless it fails or is cut; and while it lasts, each lane can go on
to its end by itself. -/
namespace TunnelRelay.Client

theorem laneSet (c : Client) (d d' : Direction) (l : Lane) :
    (c.setLane d l).lane d' = if d' = d then l else c.lane d' := by
  cases d <;> cases d' <;> rfl

theorem setLaneStage (c : Client) (d : Direction) (l : Lane) : (c.setLane d l).stage = c.stage := by
  cases d <;> rfl

theorem setLanePeer (c : Client) (d : Direction) (l : Lane) : (c.setLane d l).peer = c.peer := by
  cases d <;> rfl

theorem stageLane (c : Client) (s : Stage) (d : Direction) : ({ c with stage := s } : Client).lane d = c.lane d := by
  cases d <;> rfl

theorem settleLane (c : Client) (d : Direction) : c.settle.lane d = c.lane d := by
  unfold settle
  dsimp only
  split <;> cases d <;> rfl

theorem settlePeer (c : Client) : c.settle.peer = c.peer := by
  unfold settle
  dsimp only
  split <;> rfl

theorem setLaneKept {α : Type} (f : Lane → α) {c : Client} {d : Direction} {l : Lane} (same : f l = f (c.lane d))
    (d' : Direction) : f ((c.setLane d l).lane d') = f (c.lane d') := by
  rw [laneSet]
  split
  · rename_i here
    rw [same, here]
  · rfl

theorem settleStage (c : Client) : c.settle.stage = c.stage ∨ c.settle.stage = .ended := by
  unfold settle
  dsimp only
  split
  · exact .inr rfl
  · exact .inl rfl

inductive Does (capacity : Nat) (c : Client) : Action → Client → Nat → Prop where
  | broken (at' : c.stage = .waiting) : Does capacity c .broken { c with stage := .ended } 0
  | start (at' : c.stage = .waiting) : Does capacity c .start { c with stage := .connecting } 0
  | connected (at' : c.stage = .connecting) : Does capacity c .connected { c with stage := .relaying } 0
  | refused (at' : c.stage = .connecting) : Does capacity c .refused { c with stage := .ended } 0
  | cut (live : c.stage ≠ .ended) : Does capacity c .cut { c with stage := .ended } 0
  | move {d m l n} (at' : c.stage = .relaying) (moved : (c.lane d).after capacity m = some (l, n)) :
      Does capacity c (.move d m) (c.setLane d l).settle n
  | send (d : Direction) (bytes : List UInt8) :
      Does capacity c (.send d bytes) (c.setLane d ((c.lane d).send bytes)) 0
  | finish (d : Direction) : Does capacity c (.finish d) (c.setLane d (c.lane d).finish) 0

def Action.concerns (d : Direction) : Action → Bool
  | .move d' _ | .send d' _ | .finish d' => d' = d
  | _ => false

inductive Touches (capacity : Nat) (d : Direction) (l : Lane) : Action → Lane → Nat → Prop where
  | move {m l' n} (moved : l.after capacity m = some (l', n)) : Touches capacity d l (.move d m) l' n
  | send (bytes : List UInt8) : Touches capacity d l (.send d bytes) (l.send bytes) 0
  | finish : Touches capacity d l (.finish d) l.finish 0
  | beside {a} (other : a.concerns d = false) : Touches capacity d l a l 0

variable {capacity n : Nat} {c c' : Client} {a : Action} {past actions : List Action} {d : Direction} {l l' : Lane}

theorem does (after : c.after capacity a = some (c', n)) : Does capacity c a c' n := by
  cases a with
  | broken | start | connected | refused =>
    simp only [Client.after] at after
    split at after <;> try contradiction
    cases after
    constructor
    assumption
  | cut =>
    simp only [Client.after] at after
    split at after <;> try contradiction
    cases after
    exact .cut (by assumption)
  | move d m =>
    simp only [Client.after] at after
    split at after <;> try contradiction
    obtain ⟨⟨l, n⟩, moved, last⟩ := Option.bind_eq_some_iff.mp after
    cases last
    exact .move (by assumption) moved
  | send d bytes => cases after; exact .send d bytes
  | finish d => cases after; exact .finish d

theorem touches (does : Does capacity c a c' n) (d : Direction) :
    Touches capacity d (c.lane d) a (c'.lane d) (if a.direction = d then n else 0) := by
  cases does with
  | broken | start | connected | refused | cut =>
    rw [stageLane, ite_self]
    exact .beside rfl
  | @move d' m l n at' moved =>
    rw [settleLane, laneSet]
    by_cases same : d = d'
    · subst same
      simpa [Action.direction] using Touches.move moved
    · simpa [Action.direction, same, Ne.symm same] using Touches.beside (by simp [Action.concerns, Ne.symm same])
  | send d' bytes =>
    rw [laneSet]
    by_cases same : d = d'
    · subst same
      simpa using Touches.send bytes
    · simpa [same] using Touches.beside (by simp [Action.concerns, Ne.symm same])
  | finish d' =>
    rw [laneSet]
    by_cases same : d = d'
    · subst same
      simpa using Touches.finish
    · simpa [same] using Touches.beside (by simp [Action.concerns, Ne.symm same])

theorem saidAppend (past rest : List Action) :
    said d (past ++ rest) = said d past ++ if past.any (Action.ends d) then [] else said d rest := by
  induction past with
  | nil => simp [said]
  | cons a past ih =>
    cases a with
    | send d' bytes => by_cases same : d' = d <;> simp [said, Action.ends, same, ih]
    | finish d' => by_cases same : d' = d <;> simp [said, Action.ends, same, ih]
    | _ => simp [said, Action.ends, ih]

theorem chunksMove (past : List Action) (m : Lane.Move) :
    chunks d (past ++ [.move d m]) = (chunks d past).after m := by
  simp [chunks, moves, Chunks.ofMoves, List.filterMap_append, List.foldl_append]

theorem movesBeside (past : List Action) (other : ∀ m, a ≠ .move d m) : moves d (past ++ [a]) = moves d past := by
  cases a with
  | move d' m =>
    have same : d' ≠ d := fun same => other m (by rw [same])
    simp [moves, same]
  | _ => simp [moves]

structure Carried (capacity : Nat) (past : List Action) (d : Direction) (l : Lane) : Prop where
  faithful : Lane.Faithful (said d past) (past.any (Action.ends d)) l
  counted : Lane.Counted capacity (chunks d past) l

theorem carriedTouched (carried : Carried capacity past d l) (touched : Touches capacity d l a l' n) :
    Carried capacity (past ++ [a]) d l' ∧ (chunks d (past ++ [a])).completed = (chunks d past).completed + n := by
  obtain ⟨faithful, counted⟩ := carried
  have beside (other : ∀ m, a ≠ .move d m) : chunks d (past ++ [a]) = chunks d past :=
    congrArg Chunks.ofMoves (movesBeside past other)
  cases touched with
  | move moved =>
    obtain ⟨_, _, went⟩ := Lane.afterWent moved
    rw [chunksMove]
    refine ⟨⟨?_, by rw [chunksMove]; exact Lane.countedMoved went counted⟩, Lane.completedMoved went counted⟩
    simpa [saidAppend, said, Action.ends] using Lane.faithfulMoved went faithful
  | send bytes =>
    rw [beside (by simp)]
    have counted' := Lane.countedBeside counted (Lane.sendPump l bytes) (Lane.sendDelivered l bytes)
    refine ⟨⟨?_, by rwa [beside (by simp)]⟩, rfl⟩
    have sent := Lane.faithfulSent faithful bytes
    rw [saidAppend]
    cases fully : past.any (Action.ends d) <;> simpa [said, Action.ends, fully] using sent
  | finish =>
    rw [beside (by simp)]
    refine ⟨⟨?_, by rw [beside (by simp)]; exact Lane.countedBeside counted rfl rfl⟩, rfl⟩
    simpa [saidAppend, said, Action.ends] using Lane.faithfulFinished faithful
  | beside other =>
    have quiet : said d [a] = [] ∧ a.ends d = false := by
      cases a <;> simp_all [said, Action.ends, Action.concerns]
    have unmoved : ∀ m, a ≠ .move d m := by
      rintro m rfl
      simp [Action.concerns] at other
    rw [beside unmoved]
    refine ⟨⟨?_, by rwa [beside unmoved]⟩, rfl⟩
    simpa [saidAppend, quiet] using faithful

theorem doesPeer (does : Does capacity c a c' n) : c'.peer = c.peer := by
  cases does with
  | move => exact (settlePeer _).trans (setLanePeer ..)
  | send | finish => exact setLanePeer ..
  | _ => rfl

theorem setPeers {clients : List Client} {index : Nat} (found : clients[index]? = some c) (same : c'.peer = c.peer) :
    (clients.set index c').map Client.peer = clients.map Client.peer := by
  obtain ⟨known, here⟩ := List.getElem?_eq_some_iff.mp found
  rw [List.map_set, same, ← here, ← List.map_set, List.set_getElem_self]

def Undisturbed (actions : List Action) : Prop := ∀ a ∈ actions, a.fails = false ∧ a ≠ .cut

/- The relay lasts from the connection until both pumps are over, or it fails or is cut. -/
structure Staged (past : List Action) (c : Client) : Prop where
  before : .connected ∉ past → c.stage ≠ .relaying ∧ ∀ d, moves d past = [] ∧ (c.lane d).pump.stage = .reading
  after : .connected ∈ past → c.stage = .relaying ∨ c.stage = .ended
  relaying : c.stage = .relaying → ∀ d, (c.lane d).pump.hasFailed = false
  ended : Undisturbed past → c.stage = .ended → ∀ d, (c.lane d).pump.stage = .finished

theorem settleCases (c : Client) :
    (c.settle.stage = c.stage ∧ ∀ d, (c.lane d).pump.hasFailed = false) ∨
      (c.settle.stage = .ended ∧ ((∃ d, (c.lane d).pump.hasFailed = true) ∨ ∀ d, (c.lane d).pump.isOver = true)) := by
  unfold settle
  dsimp only
  split
  · rename_i settled
    refine .inr ⟨rfl, ?_⟩
    simp only [Bool.or_eq_true, Bool.and_eq_true] at settled
    rcases settled with (failed | failed) | finished
    · exact .inl ⟨.toRemote, failed⟩
    · exact .inl ⟨.toClient, failed⟩
    · exact .inr fun d => by cases d; exacts [finished.1, finished.2]
  · rename_i going
    simp only [Bool.or_eq_true, not_or, Bool.not_eq_true] at going
    exact .inl ⟨rfl, fun d => by cases d; exacts [going.1.1, going.1.2]⟩

theorem overFinished {p : Pump} (settled : p.isOver = true) (works : p.hasFailed = false) : p.stage = .finished := by
  unfold Pump.isOver at settled
  unfold Pump.hasFailed at works
  cases at' : p.stage <;> simp_all

theorem stagedFresh (peer : Endpoint) : Staged [] { peer } := by
  refine ⟨fun _ => ⟨by simp, fun d => ⟨rfl, by cases d <;> rfl⟩⟩, by simp, by simp, by simp⟩

theorem stagedBeside (staged : Staged past c) (other : a ≠ .connected) (unmoved : ∀ d m, a ≠ .move d m)
    (pumps : ∀ d, (c'.lane d).pump = (c.lane d).pump)
    (stage : c'.stage = c.stage ∨ (c'.stage = .connecting ∧ c.stage = .waiting) ∨
      c'.stage = .ended ∧ (a.fails = true ∨ a = .cut)) : Staged (past ++ [a]) c' := by
  have known : Action.connected ∈ past ++ [a] ↔ .connected ∈ past := by simp [Ne.symm other]
  refine ⟨fun absent => ?_, fun present => ?_, fun relaying d => ?_, fun undisturbed ended d => ?_⟩
  · obtain ⟨idle, lanes⟩ := staged.before (known.not.mp absent)
    refine ⟨?_, fun d => ?_⟩
    · rcases stage with same | ⟨connecting, -⟩ | ⟨ended, -⟩
      · rwa [same]
      · simp [connecting]
      · simp [ended]
    · rw [movesBeside past (unmoved d), pumps]
      exact lanes d
  · have running := staged.after (known.mp present)
    rcases stage with same | ⟨-, waiting⟩ | ⟨ended, -⟩
    · rwa [same]
    · simp [waiting] at running
    · exact .inr ended
  · rw [pumps]
    rcases stage with same | ⟨connecting, -⟩ | ⟨ended, -⟩
    · exact staged.relaying (same ▸ relaying) d
    · simp [connecting] at relaying
    · simp [ended] at relaying
  · rw [pumps]
    have calm := undisturbed a (by simp)
    rcases stage with same | ⟨connecting, -⟩ | ⟨-, failed | cut⟩
    · exact staged.ended (fun b mem => undisturbed b (by simp [mem])) (same ▸ ended) d
    · simp [connecting] at ended
    · simp [calm.1] at failed
    · exact absurd cut calm.2

theorem stagedStep (staged : Staged past c) (does : Does capacity c a c' n) : Staged (past ++ [a]) c' := by
  cases does with
  | start at' => exact stagedBeside staged (by simp) (by simp) (fun d => by rw [stageLane]) (.inr (.inl ⟨rfl, at'⟩))
  | broken | refused | cut =>
    refine stagedBeside staged (by simp) (by simp) (fun d => by rw [stageLane]) (.inr (.inr ⟨rfl, ?_⟩))
    simp [Action.fails]
  | send d bytes =>
    have pumps := setLaneKept Lane.pump (Lane.sendPump (c.lane d) bytes)
    exact stagedBeside staged (by simp) (by simp) pumps (.inl (setLaneStage ..))
  | finish d =>
    have pumps := setLaneKept Lane.pump (show (c.lane d).finish.pump = (c.lane d).pump from rfl)
    exact stagedBeside staged (by simp) (by simp) pumps (.inl (setLaneStage ..))
  | connected at' =>
    have first : Action.connected ∉ past := fun present => by simpa [at'] using staged.after present
    refine ⟨by simp, fun _ => .inl rfl, fun _ d => ?_, by simp⟩
    rw [stageLane, Pump.hasFailed, ((staged.before first).2 d).2]
  | @move d m l n at' moved =>
    have connected : Action.connected ∈ past := Classical.not_not.mp fun absent => (staged.before absent).1 at'
    refine ⟨by simp [connected], fun _ => ?_, fun relaying d' => ?_, fun undisturbed ended d' => ?_⟩
    · exact (settleStage _).imp_left fun same => same.trans ((setLaneStage ..).trans at')
    · rw [settleLane]
      rcases settleCases (c.setLane d l) with ⟨-, works⟩ | ⟨ended, -⟩
      · exact works d'
      · simp [ended] at relaying
    · rw [settleLane]
      obtain ⟨_, _, went⟩ := Lane.afterWent moved
      have calm : m.fails = false := (undisturbed (.move d m) (by simp)).1
      have works (d' : Direction) : ((c.setLane d l).lane d').pump.hasFailed = false := by
        rw [laneSet]
        split
        · rw [Lane.wentFails went, calm]
        · exact staged.relaying at' d'
      rcases settleCases (c.setLane d l) with ⟨same, -⟩ | ⟨-, ⟨d', failed⟩ | settled⟩
      · rw [same, setLaneStage, at'] at ended
        simp at ended
      · simp [works d'] at failed
      · exact overFinished (settled d') (works d')

theorem runLast (ran : run capacity c (past ++ [a]) = some c') :
    ∃ b n, run capacity c past = some b ∧ Does capacity b a c' n := by
  simp only [run, List.foldlM_append, List.foldlM_cons, List.foldlM_nil, bind_pure] at ran
  obtain ⟨b, before, last⟩ := Option.bind_eq_some_iff.mp ran
  obtain ⟨⟨c', n⟩, after, rfl⟩ := Option.map_eq_some_iff.mp last
  exact ⟨b, n, before, does after⟩

theorem runStaged {peer : Endpoint} (ran : run capacity { peer } actions = some c) : Staged actions c := by
  induction actions using List.reverseRecOn generalizing c with
  | nil =>
    cases ran
    exact stagedFresh peer
  | append_singleton past a ih =>
    obtain ⟨b, n, before, does⟩ := runLast ran
    exact stagedStep (ih before) does

theorem runCarried {peer : Endpoint} (ran : run capacity { peer } actions = some c) (d : Direction) :
    Carried capacity actions d (c.lane d) := by
  induction actions using List.reverseRecOn generalizing c with
  | nil =>
    cases ran
    cases d <;> exact ⟨Lane.faithfulFresh, Lane.countedFresh⟩
  | append_singleton past a ih =>
    obtain ⟨b, n, before, does⟩ := runLast ran
    exact (carriedTouched (ih before) (touches does d)).1

theorem failsEnds (does : Does capacity c a c' n) (fails : a.fails = true) :
    c'.stage = .ended ∧ ∀ d, (c'.lane d).delivered = (c.lane d).delivered := by
  cases does with
  | broken | refused => exact ⟨rfl, fun d => by rw [stageLane]⟩
  | @move d m l n at' moved =>
    obtain ⟨_, _, went⟩ := Lane.afterWent moved
    have failed : ((c.setLane d l).lane d).pump.hasFailed = true := by
      rw [laneSet, if_pos rfl, Lane.wentFails went]
      exact fails
    refine ⟨?_, fun d' => ?_⟩
    · rcases settleCases (c.setLane d l) with ⟨-, works⟩ | ⟨ended, -⟩
      · simp [works d] at failed
      · exact ended
    · rw [settleLane]
      exact setLaneKept Lane.delivered (Lane.failsWritten went fails) d'
  | _ => contradiction

theorem endedStep (does : Does capacity c a c' n) (ended : c.stage = .ended) :
    c'.stage = .ended ∧ ∀ d, (c'.lane d).delivered = (c.lane d).delivered := by
  cases does with
  | broken at' | start at' | connected at' | refused at' | move at' => simp [ended] at at'
  | cut live => exact absurd ended live
  | send d bytes => exact ⟨(setLaneStage ..).trans ended, setLaneKept Lane.delivered (Lane.sendDelivered ..)⟩
  | finish d => exact ⟨(setLaneStage ..).trans ended, setLaneKept Lane.delivered rfl⟩

theorem runEnded (ran : run capacity c actions = some c') (ended : c.stage = .ended) :
    c'.stage = .ended ∧ ∀ d, (c'.lane d).delivered = (c.lane d).delivered := by
  induction actions using List.reverseRecOn generalizing c' with
  | nil =>
    cases ran
    exact ⟨ended, fun _ => rfl⟩
  | append_singleton past a ih =>
    obtain ⟨b, n, before, does⟩ := runLast ran
    obtain ⟨ended', same⟩ := ih before
    obtain ⟨ended'', same'⟩ := endedStep does ended'
    exact ⟨ended'', fun d => (same' d).trans (same d)⟩

theorem moveSettles (relaying : c.stage = .relaying) (works : ∀ d, (c.lane d).pump.hasFailed = false)
    (works' : l.pump.hasFailed = false) (going : l.pump.stage ≠ .finished) :
    (c.setLane d l).settle.stage = .relaying ∧ ∀ d', ((c.setLane d l).settle.lane d').pump.hasFailed = false := by
  have works (d' : Direction) : ((c.setLane d l).lane d').pump.hasFailed = false := by
    rw [laneSet]
    split
    · exact works'
    · exact works d'
  refine ⟨?_, fun d' => by rw [settleLane]; exact works d'⟩
  rcases settleCases (c.setLane d l) with ⟨same, -⟩ | ⟨-, ⟨d', failed⟩ | settled⟩
  · rw [same, setLaneStage, relaying]
  · simp [works d'] at failed
  · have finished := overFinished (settled d) (works d)
    rw [laneSet, if_pos rfl] at finished
    exact absurd finished going

theorem drains {said : List UInt8} {ends : Bool} (room : 0 < capacity) (relaying : c.stage = .relaying)
    (works : ∀ d, (c.lane d).pump.hasFailed = false) (faithful : Lane.Faithful said ends (c.lane d)) :
    ∃ (moves : List Lane.Move) (c' : Client), run capacity c (moves.map (.move d)) = some c' ∧
      Lane.Done said ends (c'.lane d) := by
  induction size : (c.lane d).work using Nat.strongRecOn generalizing c with
  | ind size' ih =>
    by_cases done : Lane.Done said ends (c.lane d)
    · exact ⟨[], c, rfl, done⟩
    obtain ⟨m, l, n, moved, works', less⟩ := Lane.progress room faithful (works d) done
    obtain ⟨_, _, went⟩ := Lane.afterWent moved
    have faithful' := Lane.faithfulMoved went faithful
    have first : c.after capacity (.move d m) = some ((c.setLane d l).settle, n) := by
      simp [Client.after, relaying, moved]
    have here : (c.setLane d l).settle.lane d = l := by rw [settleLane, laneSet, if_pos rfl]
    by_cases finished : l.pump.stage = .finished
    · refine ⟨[m], (c.setLane d l).settle, by simp [run, first], ?_⟩
      rw [here]
      exact Lane.doneFinished faithful' finished
    · obtain ⟨relaying', works'⟩ := moveSettles (d := d) relaying works works' finished
      obtain ⟨moves, c', ran, done⟩ := ih l.work (size ▸ less) relaying' works' (by rwa [here]) (by rw [here])
      exact ⟨m :: moves, c', by simpa [run, first] using ran, done⟩

end TunnelRelay.Client
