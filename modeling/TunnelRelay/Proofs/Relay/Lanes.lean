import TunnelRelay.Proofs.Relay.Pumps
import TunnelRelay.Tunnel.Steps

/-! What a lane does with the bytes of its source. While the pump has not failed, what it
delivered, what it has in hand and what it has not read are together what the source sent;
what it delivered and has not counted is part of the chunk at hand; and there is a move
until all is delivered. -/
namespace TunnelRelay

namespace Pump

def rests (p : Pump) : Bool :=
  match p.stage with
  | .reading | .ending | .finished => true
  | _ => false

end Pump

namespace Lane

def Answer.taken : Pump.Answer → List UInt8
  | .read bytes => bytes
  | _ => []

inductive Answers (l : Lane) : Move → Pump.Answer → Prop where
  | read {bytes rest} (present : bytes ≠ []) (found : l.pending = bytes ++ rest) :
      Answers l (.read bytes.length) (.read bytes)
  | stop (empty : l.pending = []) (ended : l.ended = true) : Answers l (.read 0) (.read [])
  | write (count : Nat) : Answers l (.write count) (.wrote count)
  | flush : Answers l .flush .flushed
  | shut : Answers l .shut .shut
  | fault (error : IoError) : Answers l (.fault error) (.fault error)

theorem answers {l : Lane} {m : Move} {a : Pump.Answer} (answered : l.answer m = some a) : Answers l m a := by
  cases m with
  | read count =>
    cases count with
    | zero =>
      simp only [answer] at answered
      split at answered <;> try contradiction
      rename_i done
      simp only [Bool.and_eq_true, List.isEmpty_iff] at done
      cases answered
      exact .stop done.1 done.2
    | succ count =>
      simp only [answer] at answered
      split at answered <;> try contradiction
      rename_i length
      cases answered
      have read := @Answers.read l (l.pending.take (count + 1)) (l.pending.drop (count + 1))
        (List.ne_nil_of_length_pos (by omega)) (List.take_append_drop ..).symm
      rwa [length] at read
  | write count => cases answered; exact .write count
  | flush => cases answered; exact .flush
  | shut => cases answered; exact .shut
  | fault error => cases answered; exact .fault error

structure Went (capacity : Nat) (l l' : Lane) (m : Move) (a : Pump.Answer) (written : List UInt8) (n : Nat) : Prop where
  answers : Answers l m a
  goes : Pump.Goes capacity l.pump a l'.pump.stage written n
  pending : l.pending = Answer.taken a ++ l'.pending
  delivered : l'.delivered = l.delivered ++ written
  ended : l'.ended = l.ended
  shut : l'.shut = (l.shut || a == .shut)
  total : l'.pump.total = l.pump.total + n

variable {capacity n : Nat} {l l' : Lane} {m : Move} {a : Pump.Answer} {written said : List UInt8} {ends : Bool}
  {k : Chunks}

theorem afterWent (moved : l.after capacity m = some (l', n)) : ∃ a written, Went capacity l l' m a written n := by
  simp only [after, bind, Option.bind_eq_some_iff, Option.some.injEq, Prod.mk.injEq] at moved
  obtain ⟨a, answered, pump, goes, rfl, rfl⟩ := moved
  have known := answers answered
  refine ⟨a, _, known, Pump.afterGoes goes, ?_, by simp [Lane.delivered], rfl, rfl, Pump.afterTotal goes⟩
  cases known with
  | read present found => simp [found, Answer.taken]
  | _ => simp [Answer.taken]

theorem wentFails (went : Went capacity l l' m a written n) : l'.pump.hasFailed = m.fails := by
  obtain ⟨known, goes, -, -, -, -, -⟩ := went
  unfold Pump.hasFailed
  generalize l'.pump.stage = stage at goes ⊢
  cases goes with
  | write at' present more | complete at' present =>
    cases known
    simp [Move.fails, present]
  | _ => cases known <;> rfl

theorem failsWritten (went : Went capacity l l' m a written n) (fails : m.fails = true) :
    l'.delivered = l.delivered := by
  obtain ⟨known, goes, -, delivered, -, -, -⟩ := went
  rw [delivered, List.append_right_eq_self]
  generalize l'.pump.stage = stage at goes
  cases goes with
  | write at' present more | complete at' present =>
    cases known
    simp [Move.fails, present] at fails
  | _ => rfl

theorem flushCounts (went : Went capacity l l' m a written n) (other : m ≠ .flush) : n = 0 := by
  obtain ⟨known, goes, -, -, -, -, -⟩ := went
  generalize l'.pump.stage = stage at goes
  cases goes with
  | flush =>
    cases known
    contradiction
  | _ => rfl

structure Faithful (said : List UInt8) (ends : Bool) (l : Lane) : Prop where
  ended : l.ended = ends
  part : l.delivered <+: said
  whole : l.pump.hasFailed = false → l.delivered ++ l.pump.left ++ l.pending = said
  drained : l.pump.stage = .ending ∨ l.pump.stage = .finished → l.pending = [] ∧ ends = true
  shut : l.shut = true ↔ l.pump.stage = .finished
  unwritten : ∀ chunk left, l.pump.stage = .writing chunk left → left ≠ []

theorem faithfulFresh : Faithful [] false {} := by
  constructor <;> simp [Lane.delivered, Pump.left]

theorem faithfulMoved (went : Went capacity l l' m a written n) (faithful : Faithful said ends l) :
    Faithful said ends l' := by
  obtain ⟨known, goes, pending, delivered, ended, shut, -⟩ := went
  replace ended := ended.trans faithful.ended
  generalize now : l'.pump.stage = stage at goes
  have shut' := faithful.shut
  have whole := faithful.whole
  cases goes with
  | read at' present =>
    simp only [Pump.hasFailed, Pump.left, at', Answer.taken] at whole pending
    refine ⟨ended, ?_, fun _ => ?_, by simp [now], by simp [shut, shut', at', now], ?_⟩
    · simpa [delivered] using faithful.part
    · simpa [Pump.left, now, delivered, pending] using whole
    · rintro chunk left writing
      cases now.symm.trans writing
      exact present
  | stop at' =>
    simp only [Pump.hasFailed, Pump.left, at'] at whole
    cases known with
    | read present => contradiction
    | stop empty ends' =>
      have none' : l'.pending = [] := by simpa [Answer.taken, empty] using pending.symm
      refine ⟨ended, ?_, fun _ => ?_, fun _ => ⟨none', faithful.ended ▸ ends'⟩, ?_, by simp [now]⟩
      · simpa [delivered] using faithful.part
      · simpa [Pump.left, now, delivered, none', empty] using whole
      · simp [shut, shut', at', now]
  | @write chunk _ left at' present more =>
    simp only [Pump.hasFailed, Pump.left, at', forall_const] at whole
    have whole' : l.delivered ++ written ++ left ++ l'.pending = said := by
      simpa [pending, Answer.taken] using whole
    refine ⟨ended, ?_, fun _ => ?_, by simp [now], by simp [shut, shut', at', now], ?_⟩
    · rw [delivered, ← whole', List.append_assoc]
      exact List.prefix_append ..
    · simpa [Pump.left, now, delivered] using whole'
    · rintro chunk left writing
      cases now.symm.trans writing
      exact more
  | complete at' present =>
    simp only [Pump.hasFailed, Pump.left, at', forall_const] at whole
    have whole' : l.delivered ++ written ++ l'.pending = said := by
      simpa [pending, Answer.taken] using whole
    refine ⟨ended, ?_, fun _ => ?_, by simp [now], by simp [shut, shut', at', now], by simp [now]⟩
    · rw [delivered, ← whole']
      exact List.prefix_append ..
    · simpa [Pump.left, now, delivered] using whole'
  | stuck at' =>
    refine ⟨ended, ?_, by simp [Pump.hasFailed, now], by simp [now], by simp [shut, shut', at', now], by simp [now]⟩
    simpa [delivered] using faithful.part
  | flush at' =>
    simp only [Pump.hasFailed, Pump.left, at', forall_const] at whole
    refine ⟨ended, ?_, fun _ => ?_, by simp [now], by simp [shut, shut', at', now], by simp [now]⟩
    · simpa [delivered] using faithful.part
    · simpa [Pump.left, now, delivered, pending, Answer.taken] using whole
  | shut at' =>
    simp only [Pump.hasFailed, Pump.left, at', forall_const] at whole
    have done := faithful.drained (.inl at')
    have none' : l'.pending = [] := by simpa [Answer.taken, done.1] using pending.symm
    refine ⟨ended, ?_, fun _ => ?_, fun _ => ⟨none', done.2⟩, by simp [shut, now], by simp [now]⟩
    · simpa [delivered] using faithful.part
    · simpa [Pump.left, now, delivered, none', done.1] using whole
  | fault error busy =>
    refine ⟨ended, ?_, by simp [Pump.hasFailed, now], by simp [now], ?_, by simp [now]⟩
    · simpa [delivered] using faithful.part
    · cases at' : l.pump.stage <;> simp_all [Pump.isOver]

theorem sendPump (l : Lane) (bytes : List UInt8) : (l.send bytes).pump = l.pump := by
  unfold send
  split <;> rfl

theorem sendDelivered (l : Lane) (bytes : List UInt8) : (l.send bytes).delivered = l.delivered := by
  unfold send
  split <;> rfl

theorem faithfulSent (faithful : Faithful said ends l) (bytes : List UInt8) :
    Faithful (if ends then said else said ++ bytes) ends (l.send bytes) := by
  unfold send
  rw [faithful.ended]
  cases ends with
  | true => simpa using faithful
  | false =>
    have busy : ¬(l.pump.stage = .ending ∨ l.pump.stage = .finished) := fun done => by
      simpa using (faithful.drained done).2
    refine ⟨rfl, ?_, fun works => ?_, fun done => absurd done busy, faithful.shut, faithful.unwritten⟩
    · exact faithful.part.trans (List.prefix_append ..)
    · simp [← faithful.whole works, delivered]

theorem faithfulFinished (faithful : Faithful said ends l) : Faithful said true l.finish :=
  ⟨rfl, faithful.part, faithful.whole, fun done => ⟨(faithful.drained done).1, rfl⟩, faithful.shut, faithful.unwritten⟩

structure Counted (capacity : Nat) (k : Chunks) (l : Lane) : Prop where
  total : l.pump.total = k.completed
  completed : k.completed ≤ l.delivered.length
  current : l.delivered.length ≤ k.completed + k.current
  fits : k.current ≤ capacity
  writing : ∀ chunk left, l.pump.stage = .writing chunk left →
    k.current = chunk.length ∧ l.delivered.length + left.length = k.completed + k.current
  flushing : ∀ chunk, l.pump.stage = .flushing chunk →
    k.current = chunk.length ∧ l.delivered.length = k.completed + k.current
  resting : l.pump.rests = true → k.current = 0

theorem countedFresh : Counted capacity {} {} := by
  constructor <;> simp [Lane.delivered]

theorem completedMoved (went : Went capacity l l' m a written n) (counted : Counted capacity k l) :
    (k.after m).completed = k.completed + n := by
  obtain ⟨known, goes, -, -, -, -, -⟩ := went
  generalize l'.pump.stage = stage at goes
  cases goes with
  | flush at' =>
    cases known
    rw [Chunks.after, (counted.flushing _ at').1]
  | _ => cases known <;> rfl

theorem countedMoved (went : Went capacity l l' m a written n) (counted : Counted capacity k l) :
    Counted capacity (k.after m) l' := by
  have total : l'.pump.total = (k.after m).completed := by
    rw [went.total, counted.total, completedMoved went counted]
  obtain ⟨known, goes, -, delivered, -, -, -⟩ := went
  have length : l'.delivered.length = l.delivered.length + written.length := by rw [delivered, List.length_append]
  have part := counted.completed
  have whole := counted.current
  have fits := counted.fits
  generalize now : l'.pump.stage = stage at goes
  cases goes with
  | read at' present fits =>
    have fresh := counted.resting (by simp [Pump.rests, at'])
    cases known with
    | stop => contradiction
    | read =>
      simp only [List.length_nil, Nat.add_zero] at length
      refine ⟨total, ?_, ?_, fits, ?_, by simp [now], by simp [Pump.rests, now]⟩
      · simpa only [Chunks.after, length] using part
      · simp only [Chunks.after]; omega
      · rintro chunk left writing
        cases now.symm.trans writing
        exact ⟨rfl, by simp only [Chunks.after]; omega⟩
  | stop at' =>
    have fresh := counted.resting (by simp [Pump.rests, at'])
    cases known with
    | read => contradiction
    | stop =>
      simp only [List.length_nil, Nat.add_zero] at length
      refine ⟨total, ?_, ?_, Nat.zero_le _, by simp [now], by simp [now], fun _ => rfl⟩
      · simpa only [Chunks.after, length] using part
      · simp only [Chunks.after]; omega
  | write at' present more =>
    have inside := counted.writing _ _ at'
    rw [List.length_append] at inside
    cases known
    refine ⟨total, ?_, ?_, fits, ?_, by simp [now], by simp [Pump.rests, now]⟩
    · simp only [Chunks.after]; omega
    · simp only [Chunks.after]; omega
    · rintro chunk left writing
      cases now.symm.trans writing
      exact ⟨inside.1, by simp only [Chunks.after]; omega⟩
  | complete at' present =>
    have inside := counted.writing _ _ at'
    cases known
    refine ⟨total, ?_, ?_, fits, by simp [now], ?_, by simp [Pump.rests, now]⟩
    · simp only [Chunks.after]; omega
    · simp only [Chunks.after]; omega
    · rintro chunk flushing
      cases now.symm.trans flushing
      exact ⟨inside.1, by simp only [Chunks.after]; omega⟩
  | stuck at' =>
    cases known
    exact ⟨total, length ▸ part, length ▸ whole, fits, by simp [now], by simp [now], by simp [Pump.rests, now]⟩
  | flush at' =>
    have inside := counted.flushing _ at'
    simp only [List.length_nil, Nat.add_zero] at length
    cases known
    refine ⟨total, ?_, ?_, Nat.zero_le _, by simp [now], by simp [now], fun _ => rfl⟩
    · simp only [Chunks.after]; omega
    · simp only [Chunks.after]; omega
  | shut at' =>
    have fresh := counted.resting (by simp [Pump.rests, at'])
    cases known
    exact ⟨total, length ▸ part, length ▸ whole, fits, by simp [now], by simp [now], fun _ => fresh⟩
  | fault error busy =>
    cases known
    exact ⟨total, length ▸ part, length ▸ whole, fits, by simp [now], by simp [now], by simp [Pump.rests, now]⟩

theorem countedBeside (counted : Counted capacity k l) (pump : l'.pump = l.pump)
    (delivered : l'.delivered = l.delivered) : Counted capacity k l' := by
  obtain ⟨total, completed, current, fits, writing, flushing, resting⟩ := counted
  simp only [← delivered, ← pump] at total completed current writing flushing resting
  exact ⟨total, completed, current, fits, writing, flushing, resting⟩

/- Falls with each move below. -/
def work (l : Lane) : Nat :=
  3 * l.pending.length + match l.pump.stage with
    | .writing _ _ => 4
    | .flushing _ => 3
    | .reading => 2
    | .ending => 1
    | .finished | .failed _ => 0

def Done (said : List UInt8) (ends : Bool) (l : Lane) : Prop := l.delivered = said ∧ (ends = true → l.shut = true)

theorem doneFinished (faithful : Faithful said ends l) (finished : l.pump.stage = .finished) : Done said ends l := by
  have whole := faithful.whole (by simp [Pump.hasFailed, finished])
  rw [(faithful.drained (.inr finished)).1] at whole
  exact ⟨by simpa [Pump.left, finished] using whole, fun _ => faithful.shut.mpr finished⟩

theorem afterAnswer {p : Pump} (answered : l.answer m = some a) (goes : l.pump.after capacity a = some p) :
    ∃ l' n, l.after capacity m = some (l', n) ∧ l'.pump = p ∧
      l'.pending = l.pending.drop (Answer.taken a).length := by
  refine ⟨_, _, by simp only [after, answered, goes, bind, Option.bind_some]; rfl, rfl, ?_⟩
  cases a <;> rfl

theorem progress (room : 0 < capacity) (faithful : Faithful said ends l) (works : l.pump.hasFailed = false)
    (undone : ¬Done said ends l) :
    ∃ m l' n, l.after capacity m = some (l', n) ∧ l'.pump.hasFailed = false ∧ l'.work < l.work := by
  suffices ∃ m a p, l.answer m = some a ∧ l.pump.after capacity a = some p ∧ p.hasFailed = false ∧
      ∀ l' : Lane, l'.pump = p → l'.pending = l.pending.drop (Answer.taken a).length → l'.work < l.work by
    obtain ⟨m, a, p, answered, goes, works', less⟩ := this
    obtain ⟨l', n, moved, rfl, pending⟩ := afterAnswer answered goes
    exact ⟨m, l', n, moved, works', less l' rfl pending⟩
  have whole := faithful.whole works
  cases at' : l.pump.stage with
  | reading =>
    cases found : l.pending with
    | nil =>
      have all : l.delivered = said := by simpa [Pump.left, at', found] using whole
      have ended : l.ended = true := by
        rw [faithful.ended]
        exact Bool.of_not_eq_false fun open' => undone ⟨all, by simp [open']⟩
      refine ⟨.read 0, .read [], { l.pump with stage := .ending }, ?_, ?_, rfl, fun l' pump pending => ?_⟩
      · simp [answer, found, ended]
      · simp [Pump.after, at']
      · simp [work, pump, pending, at', found, Answer.taken]
    | cons b rest =>
      refine ⟨.read 1, .read [b], { l.pump with stage := .writing [b] [b] }, ?_, ?_, rfl, fun l' pump pending => ?_⟩
      · simp [answer, found]
      · simp [Pump.after, at', Nat.not_lt.mpr room]
      · simp only [work, pump, pending, at', found, Answer.taken, List.length_cons, List.drop_succ_cons, List.drop_zero,
          List.length_nil]
        omega
  | writing chunk left =>
    have present := List.length_pos_iff.mpr (faithful.unwritten chunk left at')
    refine ⟨.write left.length, .wrote left.length, { l.pump with stage := .flushing chunk }, rfl, ?_, rfl,
      fun l' pump pending => ?_⟩
    · simp [Pump.after, at', Nat.ne_of_gt present]
    · simp [work, pump, pending, at', Answer.taken]
  | flushing chunk =>
    refine ⟨.flush, .flushed, ⟨.reading, l.pump.total + chunk.length⟩, rfl, ?_, rfl, fun l' pump pending => ?_⟩
    · simp [Pump.after, at']
    · simp [work, pump, pending, at', Answer.taken]
  | ending =>
    refine ⟨.shut, .shut, { l.pump with stage := .finished }, rfl, ?_, rfl, fun l' pump pending => ?_⟩
    · simp [Pump.after, at']
    · simp [work, pump, pending, at', Answer.taken]
  | finished => exact absurd (doneFinished faithful at') undone
  | failed error => simp [Pump.hasFailed, at'] at works

end Lane
end TunnelRelay
