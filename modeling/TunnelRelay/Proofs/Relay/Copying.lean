import Mathlib.Data.List.TakeWhile
import TunnelRelay.Proofs.Relay.Lanes
import TunnelRelay.Relay.Copying

/-! One call of a pump that copies from a source to a sink, whatever the two answer: what is
still to be read is what the source still has, what was counted is what was taken wholly and
then flushed, and only after the end of the source is the sink shut down. -/
namespace TunnelRelay

namespace Source

inductive Reads (room : Nat) (s : Source) : Lane.Move → Source → Prop where
  | piece {n s'} (brought : 0 < n) (fits : n ≤ room) (within : n ≤ s.bytes.length) (bytes : s'.bytes = s.bytes.drop n)
      (fault : s'.fault = s.fault) : Reads room s (.read n) s'
  | stop {s'} (empty : s.bytes = []) (calm : s.fault = none) (bytes : s'.bytes = []) (fault : s'.fault = s.fault) :
      Reads room s (.read 0) s'
  | broken {error s'} (empty : s.bytes = []) (fails : s.fault = some error) (bytes : s'.bytes = [])
      (fault : s'.fault = s.fault) : Reads room s (.fault error) s'

variable {s s' : Source} {room : Nat} {m : Lane.Move}

theorem readsDrop (reads : Reads room s m s') : s'.bytes = s.bytes.drop m.size ∧ s'.fault = s.fault := by
  cases reads with
  | piece brought fits within bytes fault => exact ⟨bytes, fault⟩
  | stop empty calm bytes fault | broken empty fails bytes fault => exact ⟨by rw [bytes, empty, List.drop_nil], fault⟩

theorem flattenFilled (pieces : List (List UInt8)) : (pieces.dropWhile List.isEmpty).flatten = pieces.flatten := by
  induction pieces with
  | nil => rfl
  | cons piece rest ih =>
    rw [List.dropWhile_cons]
    split
    · rename_i empty
      rw [ih, List.flatten_cons, List.isEmpty_iff.mp empty, List.nil_append]
    · rfl

theorem readReads (space : 0 < room) (s : Source) : Reads room s (s.read room).1 (s.read room).2 := by
  unfold read
  have same : (s.pieces.dropWhile List.isEmpty).flatten = s.bytes := flattenFilled s.pieces
  split
  · rename_i piece rest found
    rw [found, List.flatten_cons] at same
    have present : piece ≠ [] := by
      have first := List.head?_dropWhile_not List.isEmpty s.pieces
      simpa [found] using first
    have long := List.length_pos_iff.mpr present
    refine .piece (by omega) (Nat.min_le_left ..) ?_ ?_ rfl
    · rw [← same, List.length_append]
      omega
    · show piece.drop room ++ rest.flatten = s.bytes.drop (min room piece.length)
      rw [← same, List.drop_append_of_le_length (Nat.min_le_right ..)]
      congr 1
      rcases Nat.le_total room piece.length with less | more
      · rw [Nat.min_eq_left less]
      · rw [Nat.min_eq_right more, List.drop_eq_nil_of_le more, List.drop_length]
  · rename_i found
    rw [found] at same
    split
    · rename_i calm
      exact .stop same.symm calm rfl rfl
    · rename_i error fails
      exact .broken same.symm fails rfl rfl

end Source

inductive Sink.Gives (s : Sink) (whole : Lane.Move) : Lane.Move → Prop where
  | fails {error} (first : .fails error ∈ s) : Gives s whole (.fault error)
  | part {given k} (asked : whole = .write given) (fits : k ≤ given) (steady : s.Steady → 0 < given → 0 < k) :
      Gives s whole (.write k)
  | whole : Gives s whole whole

theorem Sink.answerGives (s : Sink) (whole : Lane.Move) : s.Gives whole (s.answer whole) := by
  unfold Sink.answer
  split
  · exact .fails (List.mem_cons_self ..)
  · rename_i most rest given
    refine .part rfl (Nat.min_le_right ..) fun steady some' => ?_
    obtain ⟨least, taken⟩ := steady _ (List.mem_cons_self ..)
    cases taken
    omega
  · exact .whole

namespace Copying

structure Stepped (capacity : Nat) (c c' : Copying) (call : Pump.Call) (m : Lane.Move) (a : Pump.Answer)
    (written : List UInt8) (n : Nat) : Prop where
  called : c.lane.pump.stage.call? = some call
  asked : c.ask capacity call = (m, c'.source, c'.sink)
  went : Lane.Went capacity c.lane c'.lane m a written n
  log : c'.log = c.log ++ [(call, m)]
  counts : c'.counts = if m = .flush then c.counts ++ [n] else c.counts

variable {capacity n : Nat} {source : Source} {c c' : Copying} {call : Pump.Call} {m : Lane.Move} {a : Pump.Answer}
  {written : List UInt8}

theorem stepCases (stepped : c.step capacity = some c') :
    ∃ call m a written n, Stepped capacity c c' call m a written n := by
  simp only [step, bind, Option.bind_eq_some_iff] at stepped
  obtain ⟨call, called, ⟨lane, n⟩, moved, last⟩ := stepped
  cases last
  obtain ⟨a, written, went⟩ := Lane.afterWent moved
  exact ⟨call, _, a, written, n, called, rfl, went, rfl, rfl⟩

theorem answerSize {whole : Lane.Move} (sink : Sink) (unread : whole.size = 0) : (sink.answer whole).size = 0 := by
  have gives := sink.answerGives whole
  generalize sink.answer whole = m at gives
  cases gives with
  | fails | part => rfl
  | whole => exact unread

structure Joined (source : Source) (c : Copying) : Prop where
  pending : c.lane.pending = c.source.bytes
  fault : c.source.fault = source.fault
  size : readSize c.log + c.lane.pending.length = source.bytes.length
  covered : c.lane.delivered.length + c.lane.pending.length ≤ source.bytes.length
  ended : ∀ call, (call, .read 0) ∈ c.log → c.lane.pending = [] ∧ source.fault = none

theorem answersStop (answers : Lane.Answers c.lane m a) (stops : m = .read 0) :
    c.lane.pending = [] ∧ c.lane.ended = true := by
  cases answers with
  | read present => simp [present] at stops
  | stop empty ended => exact ⟨empty, ended⟩
  | write | flush | shut | fault => contradiction

theorem wentDrops (went : Lane.Went capacity c.lane c'.lane m a written n) :
    m.size ≤ c.lane.pending.length ∧ c'.lane.pending = c.lane.pending.drop m.size := by
  have taken : (Lane.Answer.taken a).length = m.size := by cases went.answers <;> rfl
  rw [went.pending, ← taken, List.length_append, List.drop_left]
  exact ⟨by omega, rfl⟩

theorem askedDrops (room : 0 < capacity) (asked : c.ask capacity call = (m, c'.source, c'.sink)) :
    c'.source.bytes = c.source.bytes.drop m.size ∧ c'.source.fault = c.source.fault := by
  cases call with
  | read =>
    have reads := Source.readReads room c.source
    simp only [ask, Prod.mk.injEq] at asked
    rw [asked.1, asked.2.1] at reads
    exact Source.readsDrop reads
  | write | flush | shutdown =>
    simp only [ask, Prod.mk.injEq] at asked
    obtain ⟨rfl, source, -⟩ := asked
    rw [answerSize c.sink rfl, source, List.drop_zero]
    exact ⟨rfl, rfl⟩

theorem joinedStep (room : 0 < capacity) (stepped : Stepped capacity c c' call m a written n)
    (faithful : Lane.Faithful source.bytes source.fault.isNone c'.lane) (joined : Joined source c) :
    Joined source c' := by
  obtain ⟨called, asked, went, log, -⟩ := stepped
  obtain ⟨fits, pending⟩ := wentDrops went
  obtain ⟨bytes, fault⟩ := askedDrops room asked
  have size := joined.size
  have length : c'.lane.pending.length + m.size = c.lane.pending.length := by
    rw [pending, List.length_drop]
    omega
  refine ⟨by rw [pending, bytes, joined.pending], fault.trans joined.fault, ?_, ?_, fun call' mem => ?_⟩
  · simp only [log, readSize, List.map_append, List.sum_append, List.map_cons, List.map_nil, List.sum_cons,
      List.sum_nil] at size ⊢
    omega
  · cases failed : c'.lane.pump.hasFailed with
    | false =>
      have whole := congrArg List.length (faithful.whole failed)
      simp only [List.length_append] at whole
      omega
    | true =>
      have covered := joined.covered
      rw [Lane.failsWritten went (Lane.wentFails went ▸ failed)]
      omega
  · rw [log, List.mem_append, List.mem_singleton] at mem
    rcases mem with earlier | last
    · obtain ⟨empty, calm⟩ := joined.ended call' earlier
      exact ⟨by rw [pending, empty, List.drop_nil], calm⟩
    · obtain ⟨empty, ended⟩ := answersStop went.answers (Prod.mk.inj last).2.symm
      rw [← went.ended, faithful.ended, Option.isNone_iff_eq_none] at ended
      exact ⟨by rw [pending, empty, List.drop_nil], ended⟩

structure Handled (capacity : Nat) (c : Copying) : Prop where
  complete : (Rounds.ofLog c.log).complete = c.counts
  counts : ∀ n ∈ c.counts, 0 < n ∧ n ≤ capacity
  total : c.lane.pump.total = c.counts.sum
  reads : ∀ call n, (call, .read n) ∈ c.log → n ≤ capacity
  writing : ∀ chunk left, c.lane.pump.stage = .writing chunk left → (Rounds.ofLog c.log).size = chunk.length ∧
    (Rounds.ofLog c.log).taken + left.length = chunk.length ∧ 0 < chunk.length ∧ chunk.length ≤ capacity
  flushing : ∀ chunk, c.lane.pump.stage = .flushing chunk → (Rounds.ofLog c.log).size = chunk.length ∧
    (Rounds.ofLog c.log).taken = chunk.length ∧ 0 < chunk.length ∧ chunk.length ≤ capacity

theorem ofLogLast (log : List (Pump.Call × Lane.Move)) (call : Pump.Call) (m : Lane.Move) :
    Rounds.ofLog (log ++ [(call, m)]) = (Rounds.ofLog log).after m := by
  simp [Rounds.ofLog]

theorem completeOther (r : Rounds) (other : m ≠ .flush) : (r.after m).complete = r.complete := by
  cases m with
  | flush => contradiction
  | _ => rfl

theorem readsMore (reads : ∀ call n, (call, .read n) ∈ c.log → n ≤ capacity) (log : c'.log = c.log ++ [(call, m)])
    (fits : m.size ≤ capacity) : ∀ call n, (call, .read n) ∈ c'.log → n ≤ capacity := by
  intro call' n mem
  rw [log, List.mem_append, List.mem_singleton] at mem
  rcases mem with earlier | last
  · exact reads call' n earlier
  · obtain ⟨-, rfl⟩ := Prod.mk.inj last
    exact fits

theorem handledStep (stepped : Stepped capacity c c' call m a written n) (handled : Handled capacity c) :
    Handled capacity c' := by
  obtain ⟨called, asked, went, log, counts⟩ := stepped
  obtain ⟨complete, counted, total, reads, writing, flushing⟩ := handled
  have rounds : Rounds.ofLog c'.log = (Rounds.ofLog c.log).after m := by rw [log, ofLogLast]
  have total' : c'.lane.pump.total = c'.counts.sum := by
    rw [went.total, total, counts]
    split
    · simp
    · rename_i other
      rw [Lane.flushCounts went other, Nat.add_zero]
  -- Nothing is counted but with a flush.
  have still (other : m ≠ .flush) : (Rounds.ofLog c'.log).complete = c'.counts ∧ ∀ n ∈ c'.counts, 0 < n ∧ n ≤ capacity := by
    rw [rounds, completeOther _ other, counts, if_neg other]
    exact ⟨complete, counted⟩
  obtain ⟨known, goes, -, -, -, -, -⟩ := went
  generalize now : c'.lane.pump.stage = stage at goes
  cases goes with
  | read at' present fits =>
    cases known with
    | stop => contradiction
    | read =>
      obtain ⟨complete', counted'⟩ := still (by simp)
      refine ⟨complete', counted', total', readsMore reads log fits, ?_, by simp [now]⟩
      rintro chunk left writing'
      cases now.symm.trans writing'
      rw [rounds]
      exact ⟨rfl, Nat.zero_add _, List.length_pos_iff.mpr present, fits⟩
  | stop at' =>
    have nothing : m.size = 0 := by cases known <;> rfl
    obtain ⟨complete', counted'⟩ := still (by cases known <;> simp)
    exact ⟨complete', counted', total', readsMore reads log (by omega), by simp [now], by simp [now]⟩
  | write at' present more =>
    cases known
    obtain ⟨size, taken, bounds⟩ := writing _ _ at'
    obtain ⟨complete', counted'⟩ := still (by simp)
    refine ⟨complete', counted', total', readsMore reads log (Nat.zero_le _), ?_, by simp [now]⟩
    rintro chunk left writing'
    cases now.symm.trans writing'
    rw [rounds]
    rw [List.length_append] at taken
    exact ⟨size, by simp only [Rounds.after]; omega, bounds⟩
  | complete at' present =>
    cases known
    obtain ⟨size, taken, bounds⟩ := writing _ _ at'
    obtain ⟨complete', counted'⟩ := still (by simp)
    refine ⟨complete', counted', total', readsMore reads log (Nat.zero_le _), by simp [now], ?_⟩
    rintro chunk flushing'
    cases now.symm.trans flushing'
    rw [rounds]
    exact ⟨size, taken, bounds⟩
  | flush at' =>
    cases known
    obtain ⟨size, taken, bounds⟩ := flushing _ at'
    rw [if_pos rfl] at counts
    refine ⟨?_, fun k mem => ?_, total', readsMore reads log (Nat.zero_le _), by simp [now], by simp [now]⟩
    · rw [rounds, counts, Rounds.after, if_pos (taken.trans size.symm), complete, size]
    · rw [counts, List.mem_append, List.mem_singleton] at mem
      rcases mem with earlier | rfl
      · exact counted k earlier
      · exact bounds
  | stuck at' | shut at' | fault error busy =>
    cases known
    obtain ⟨complete', counted'⟩ := still (by simp)
    exact ⟨complete', counted', total', readsMore reads log (Nat.zero_le _), by simp [now], by simp [now]⟩

/- What was delivered and not counted is what was taken of the chunk at hand. -/
structure Level (c : Copying) : Prop where
  resting : c.lane.pump.rests = true → c.lane.delivered.length = c.counts.sum
  writing : ∀ chunk left, c.lane.pump.stage = .writing chunk left →
    c.lane.delivered.length = c.counts.sum + (Rounds.ofLog c.log).taken
  flushing : ∀ chunk, c.lane.pump.stage = .flushing chunk →
    c.lane.delivered.length = c.counts.sum + (Rounds.ofLog c.log).taken

theorem levelStep (stepped : Stepped capacity c c' call m a written n) (handled : Handled capacity c)
    (level : Level c) : Level c' := by
  obtain ⟨called, asked, ⟨known, goes, -, delivered, -, -, -⟩, log, counts⟩ := stepped
  have rounds : Rounds.ofLog c'.log = (Rounds.ofLog c.log).after m := by rw [log, ofLogLast]
  have length := congrArg List.length delivered
  rw [List.length_append] at length
  generalize now : c'.lane.pump.stage = stage at goes
  cases goes with
  | read at' present =>
    have before := level.resting (by simp [Pump.rests, at'])
    cases known with
    | stop => contradiction
    | read =>
      refine ⟨by simp [Pump.rests, now], fun _ _ _ => ?_, by simp [now]⟩
      rw [rounds, counts, if_neg (by simp), Rounds.after, length, before]
      rfl
  | stop at' =>
    have before := level.resting (by simp [Pump.rests, at'])
    have other : m ≠ .flush := by cases known <;> simp
    exact ⟨fun _ => by rw [length, counts, if_neg other, before]; rfl, by simp [now], by simp [now]⟩
  | write at' =>
    have before := level.writing _ _ at'
    cases known
    refine ⟨by simp [Pump.rests, now], fun _ _ _ => ?_, by simp [now]⟩
    rw [rounds, counts, if_neg (by simp), Rounds.after, length, before, Nat.add_assoc]
  | complete at' =>
    have before := level.writing _ _ at'
    cases known
    refine ⟨by simp [Pump.rests, now], by simp [now], fun _ _ => ?_⟩
    rw [rounds, counts, if_neg (by simp), Rounds.after, length, before, Nat.add_assoc]
  | flush at' =>
    have before := level.flushing _ at'
    obtain ⟨-, taken, -⟩ := handled.flushing _ at'
    cases known
    refine ⟨fun _ => ?_, by simp [now], by simp [now]⟩
    rw [length, counts, if_pos rfl, List.sum_append, List.sum_singleton, before, taken]
    rfl
  | shut at' =>
    have before := level.resting (by simp [Pump.rests, at'])
    cases known
    exact ⟨fun _ => by rw [length, counts, if_neg (by simp), before]; rfl, by simp [now], by simp [now]⟩
  | stuck at' | fault error busy =>
    exact ⟨by simp [Pump.rests, now], by simp [now], by simp [now]⟩

def Told (log : List (Pump.Call × Lane.Move)) : Pump.Stage → Prop
  | .reading | .writing _ _ | .flushing _ => Clean log
  | .ending => ∃ before, Clean before ∧ log = before ++ [(.read, .read 0)]
  | .finished => ∃ before, Clean before ∧ log = before ++ [(.read, .read 0), (.shutdown, .shut)]
  | .failed error => Clean log ∨
      ∃ before, Clean before ∧ log = before ++ [(.read, .read 0), (.shutdown, .fault error)]

theorem cleanMore {log : List (Pump.Call × Lane.Move)} (clean : Clean log) (call' : call ≠ .shutdown)
    (brings : m ≠ .read 0) : Clean (log ++ [(call, m)]) := by
  intro entry mem
  rcases List.mem_append.mp mem with earlier | last
  · exact clean entry earlier
  · rw [List.mem_singleton.mp last]
    exact ⟨call', brings⟩

theorem toldStep (stepped : Stepped capacity c c' call m a written n) (told : Told c.log c.lane.pump.stage) :
    Told c'.log c'.lane.pump.stage := by
  obtain ⟨called, -, ⟨known, goes, -, -, -, -, -⟩, log, -⟩ := stepped
  rw [log]
  generalize c'.lane.pump.stage = stage at goes
  cases goes with
  | read at' present =>
    rw [at'] at told called
    cases called
    cases known with
    | stop => contradiction
    | read => exact cleanMore told (by simp) (by simpa using present)
  | stop at' =>
    rw [at'] at told called
    cases called
    cases known with
    | read => contradiction
    | stop => exact ⟨c.log, told, rfl⟩
  | write at' | complete at' | flush at' =>
    rw [at'] at told called
    cases called
    cases known
    exact cleanMore told (by simp) (by simp)
  | stuck at' =>
    rw [at'] at told called
    cases called
    cases known
    exact .inl (cleanMore told (by simp) (by simp))
  | shut at' =>
    rw [at'] at told called
    cases called
    cases known
    obtain ⟨before, clean, ended⟩ := told
    exact ⟨before, clean, by rw [ended, List.append_assoc]; rfl⟩
  | fault error busy =>
    cases known
    cases at' : c.lane.pump.stage with
    | ending =>
      rw [at'] at told called
      cases called
      obtain ⟨before, clean, ended⟩ := told
      exact .inr ⟨before, clean, by rw [ended, List.append_assoc]; rfl⟩
    | finished | failed => simp [Pump.isOver, at'] at busy
    | reading | writing | flushing =>
      rw [at'] at told called
      cases called
      exact .inl (cleanMore told (by simp) (by simp))

end Copying
end TunnelRelay
