import TunnelRelay.Proofs.Relay.Copying

/-! What a pump copies from a source to a sink, whatever the two do. It always comes to an
end. If it ends well, the sink has all bytes of the source and was shut down once, at last;
else it has the first of those that were read. -/
namespace TunnelRelay
namespace Copying

variable {capacity n : Nat} {source : Source} {c c' : Copying} {call : Pump.Call} {m : Lane.Move} {a : Pump.Answer}
  {written : List UInt8}

def due (c : Copying) : Nat :=
  3 * c.lane.pending.length + match c.lane.pump.stage with
    | .writing _ left => left.length + 3
    | .flushing _ => 3
    | .reading => 2
    | .ending => 1
    | .finished | .failed _ => 0

theorem dueFalls (stepped : Stepped capacity c c' call m a written n) : c'.due < c.due := by
  obtain ⟨-, -, went, -, -⟩ := stepped
  obtain ⟨fits, pending⟩ := wentDrops went
  have length : c'.lane.pending.length + m.size = c.lane.pending.length := by
    rw [pending, List.length_drop]
    omega
  obtain ⟨known, goes, -, -, -, -, -⟩ := went
  generalize now : c'.lane.pump.stage = stage at goes
  cases goes with
  | read at' present =>
    cases known with
    | stop => contradiction
    | @read bytes =>
      have some' := List.length_pos_iff.mpr present
      simp only [due, now, at', Lane.Move.size] at length ⊢
      omega
  | stop at' =>
    simp only [due, now, at']
    omega
  | write at' present =>
    have some' := List.length_pos_iff.mpr present
    simp only [due, now, at', List.length_append]
    omega
  | complete at' present =>
    have some' := List.length_pos_iff.mpr present
    simp only [due, now, at']
    omega
  | stuck at' | flush at' | shut at' =>
    simp only [due, now, at']
    omega
  | fault error busy =>
    cases at' : c.lane.pump.stage with
    | finished | failed => simp [Pump.isOver, at'] at busy
    | _ =>
      simp only [due, now, at']
      omega

theorem stepsOn {p : Pump} (called : c.lane.pump.stage.call? = some call)
    (answered : c.lane.answer (c.ask capacity call).1 = some a) (goes : c.lane.pump.after capacity a = some p) :
    ∃ c', c.step capacity = some c' := by
  obtain ⟨l', n, moved, -, -⟩ := Lane.afterAnswer answered goes
  exact ⟨_, by simp only [step, called, moved, bind, Option.bind_some]; rfl⟩

theorem faultsOn {error : IoError} (called : c.lane.pump.stage.call? = some call)
    (asked : (c.ask capacity call).1 = .fault error) : ∃ c', c.step capacity = some c' := by
  refine stepsOn called (a := .fault error) (p := { c.lane.pump with stage := .failed error }) (by rw [asked]; rfl) ?_
  cases at' : c.lane.pump.stage with
  | finished | failed =>
    rw [at'] at called
    contradiction
  | reading | writing | flushing | ending => simp only [Pump.after, at']

theorem readsOn (room : 0 < capacity) (joined : Joined source c)
    (faithful : Lane.Faithful source.bytes source.fault.isNone c.lane) (at' : c.lane.pump.stage = .reading) :
    ∃ c', c.step capacity = some c' := by
  have called : c.lane.pump.stage.call? = some .read := by rw [at']; rfl
  have asked : (c.ask capacity .read).1 = (c.source.read capacity).1 := rfl
  have reads := Source.readReads room c.source
  have pending := joined.pending
  generalize (c.source.read capacity).1 = m at asked reads
  cases reads with
  | @piece n _ brought fits within =>
    have long : (c.lane.pending.take n).length = n := by rw [List.length_take, pending]; omega
    have present : (c.lane.pending.take n).isEmpty = false := by
      rw [List.isEmpty_eq_false_iff_exists_mem]
      exact List.exists_mem_of_length_pos (by omega)
    obtain ⟨k, rfl⟩ : ∃ k, n = k + 1 := ⟨n - 1, by omega⟩
    have goes : c.lane.pump.after capacity (.read (c.lane.pending.take (k + 1))) = some { c.lane.pump with
        stage := .writing (c.lane.pending.take (k + 1)) (c.lane.pending.take (k + 1)) } := by
      simp only [Pump.after, at', long, if_neg (Nat.not_lt.mpr fits), present]
      rfl
    exact stepsOn called (by simp only [asked, Lane.answer, if_pos long]) goes
  | stop empty calm =>
    have ended : c.lane.ended = true := by
      rw [faithful.ended, ← joined.fault, calm]
      rfl
    refine stepsOn called (a := .read []) (p := { c.lane.pump with stage := .ending }) ?_ (by simp [Pump.after, at'])
    simp [asked, Lane.answer, pending, empty, ended]
  | broken => exact faultsOn called asked

theorem writesOn {chunk left : List UInt8} (at' : c.lane.pump.stage = .writing chunk left) :
    ∃ c', c.step capacity = some c' := by
  have called : c.lane.pump.stage.call? = some (.write left.length) := by rw [at']; rfl
  have asked : (c.ask capacity (.write left.length)).1 = c.sink.answer (.write left.length) := rfl
  have wrote (k : Nat) (fits : k ≤ left.length) (took : (c.ask capacity (.write left.length)).1 = .write k) :
      ∃ c', c.step capacity = some c' := by
    have after : ∃ p, c.lane.pump.after capacity (.wrote k) = some p := by
      simp only [Pump.after, at', if_neg (Nat.not_lt.mpr fits)]
      split
      · exact ⟨_, rfl⟩
      · split <;> exact ⟨_, rfl⟩
    obtain ⟨p, goes⟩ := after
    exact stepsOn called (by rw [took]; rfl) goes
  have gives := c.sink.answerGives (.write left.length)
  generalize c.sink.answer (.write left.length) = m at asked gives
  cases gives with
  | fails => exact faultsOn called asked
  | part given fits =>
    cases given
    exact wrote _ fits asked
  | whole => exact wrote _ (Nat.le_refl _) asked

theorem givesOn {whole : Lane.Move} {p : Pump} (called : c.lane.pump.stage.call? = some call)
    (asked : (c.ask capacity call).1 = c.sink.answer whole) (unwritten : ∀ n, whole ≠ .write n)
    (answered : c.lane.answer whole = some a) (goes : c.lane.pump.after capacity a = some p) :
    ∃ c', c.step capacity = some c' := by
  have gives := c.sink.answerGives whole
  generalize c.sink.answer whole = m at asked gives
  cases gives with
  | fails => exact faultsOn called asked
  | part given => exact absurd given (unwritten _)
  | whole => exact stepsOn called (by rw [asked, answered]) goes

theorem goesOn (room : 0 < capacity) (joined : Joined source c)
    (faithful : Lane.Faithful source.bytes source.fault.isNone c.lane) (busy : c.lane.pump.isOver = false) :
    ∃ c', c.step capacity = some c' := by
  cases at' : c.lane.pump.stage with
  | reading => exact readsOn room joined faithful at'
  | writing chunk left => exact writesOn at'
  | flushing chunk =>
    have after : c.lane.pump.after capacity .flushed = some ⟨.reading, c.lane.pump.total + chunk.length⟩ := by
      simp only [Pump.after, at']
    exact givesOn (by rw [at']; rfl) rfl (by simp) rfl after
  | ending =>
    have after : c.lane.pump.after capacity .shut = some { c.lane.pump with stage := .finished } := by
      simp only [Pump.after, at']
    exact givesOn (by rw [at']; rfl) rfl (by simp) rfl after
  | finished | failed => simp [Pump.isOver, at'] at busy

structure Sound (capacity : Nat) (source : Source) (c : Copying) : Prop where
  faithful : Lane.Faithful source.bytes source.fault.isNone c.lane
  joined : Joined source c
  handled : Handled capacity c
  level : Level c
  told : Told c.log c.lane.pump.stage

theorem soundBegin (capacity : Nat) (source : Source) (sink : Sink) : Sound capacity source (begin source sink) := by
  refine ⟨⟨rfl, ?_, fun _ => ?_, ?_, ?_, ?_⟩, ⟨rfl, rfl, ?_, ?_, ?_⟩, ⟨rfl, ?_, rfl, ?_, ?_, ?_⟩,
    ⟨?_, ?_, ?_⟩, ?_⟩
  all_goals simp [begin, Lane.delivered, Pump.left, readSize, Told, Clean]

theorem soundStep (room : 0 < capacity) (sound : Sound capacity source c) (stepped : c.step capacity = some c') :
    Sound capacity source c' ∧ c'.due < c.due := by
  obtain ⟨call, m, a, written, n, stepped⟩ := stepCases stepped
  have faithful := Lane.faithfulMoved stepped.went sound.faithful
  exact ⟨⟨faithful, joinedStep room stepped faithful sound.joined, handledStep stepped sound.handled,
    levelStep stepped sound.handled sound.level, toldStep stepped sound.told⟩, dueFalls stepped⟩

end Copying
end TunnelRelay
