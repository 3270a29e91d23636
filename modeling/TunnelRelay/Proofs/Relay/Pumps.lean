import TunnelRelay.Relay.Pump

/-! What a pump does with one answer. `Goes` lists the answers that fit a stage, each with
the stage it leads to, the bytes that it writes and how many it counts. -/
namespace TunnelRelay.Pump

def left (p : Pump) : List UInt8 :=
  match p.stage with
  | .writing _ left => left
  | _ => []

inductive Goes (capacity : Nat) (p : Pump) : Answer → Stage → (written : List UInt8) → Nat → Prop where
  | read {bytes} (at' : p.stage = .reading) (present : bytes ≠ []) (fits : bytes.length ≤ capacity) :
      Goes capacity p (.read bytes) (.writing bytes bytes) [] 0
  | stop (at' : p.stage = .reading) : Goes capacity p (.read []) .ending [] 0
  | write {chunk bytes left} (at' : p.stage = .writing chunk (bytes ++ left)) (present : bytes ≠ [])
      (more : left ≠ []) : Goes capacity p (.wrote bytes.length) (.writing chunk left) bytes 0
  | complete {chunk left} (at' : p.stage = .writing chunk left) (present : left ≠ []) :
      Goes capacity p (.wrote left.length) (.flushing chunk) left 0
  | stuck {chunk left} (at' : p.stage = .writing chunk left) : Goes capacity p (.wrote 0) (.failed writeZero) [] 0
  | flush {chunk} (at' : p.stage = .flushing chunk) : Goes capacity p .flushed .reading [] chunk.length
  | shut (at' : p.stage = .ending) : Goes capacity p .shut .finished [] 0
  | fault (error : IoError) (busy : p.isOver = false) : Goes capacity p (.fault error) (.failed error) [] 0

variable {capacity : Nat} {p p' : Pump} {a : Answer}

theorem faultGoes {error : IoError} (goes : p.after capacity (.fault error) = some p') :
    Goes capacity p (.fault error) p'.stage (p.written (.fault error)) (p.counted (.fault error)) := by
  have busy : p.isOver = false := by cases at' : p.stage <;> simp_all [after, isOver]
  have failed : p' = { p with stage := .failed error } := by cases at' : p.stage <;> simp_all [after]
  have nothing : p.written (.fault error) = [] ∧ p.counted (.fault error) = 0 := by
    cases at' : p.stage <;> simp [written, counted, at']
  rw [failed, nothing.1, nothing.2]
  exact .fault error busy

theorem wroteGoes {chunk rest : List UInt8} {count : Nat} (at' : p.stage = .writing chunk rest)
    (goes : p.after capacity (.wrote count) = some p') :
    Goes capacity p (.wrote count) p'.stage (p.written (.wrote count)) (p.counted (.wrote count)) := by
  have wrote : p.written (.wrote count) = rest.take count := by simp [written, at']
  have none' : p.counted (.wrote count) = 0 := by simp [counted, at']
  simp only [after, at'] at goes
  rw [wrote, none']
  split at goes <;> try contradiction
  rename_i within
  split at goes
  · rename_i zero
    cases goes
    subst zero
    exact .stuck at'
  rename_i some'
  split at goes
  · rename_i all
    cases goes
    subst all
    rw [List.take_length]
    exact .complete at' (List.ne_nil_of_length_pos (by omega))
  · rename_i part
    cases goes
    have length : (rest.take count).length = count := by rw [List.length_take]; omega
    have split' : p.stage = .writing chunk (rest.take count ++ rest.drop count) := by rw [List.take_append_drop, at']
    have step := @Goes.write capacity p chunk _ _ split' (List.ne_nil_of_length_pos (by omega))
      (List.ne_nil_of_length_pos (by rw [List.length_drop]; omega))
    rwa [length] at step

theorem afterGoes (goes : p.after capacity a = some p') : Goes capacity p a p'.stage (p.written a) (p.counted a) := by
  cases a with
  | fault error => exact faultGoes goes
  | read bytes =>
    cases at' : p.stage <;> simp only [after, at', reduceCtorEq] at goes
    split at goes <;> try contradiction
    rename_i fits
    split at goes <;> rename_i empty <;> cases goes <;> simp only [written, counted, at']
    · rw [List.isEmpty_iff.mp empty]
      exact .stop at'
    · exact .read at' (by simpa using empty) (Nat.le_of_not_lt fits)
  | wrote count =>
    cases at' : p.stage with
    | writing chunk rest => exact wroteGoes at' goes
    | _ => simp [after, at'] at goes
  | flushed =>
    cases at' : p.stage <;> simp only [after, at', reduceCtorEq, Option.some.injEq] at goes
    subst goes
    simp only [written, counted, at']
    exact .flush at'
  | shut =>
    cases at' : p.stage <;> simp only [after, at', reduceCtorEq, Option.some.injEq] at goes
    subst goes
    simp only [written, counted, at']
    exact .shut at'

theorem afterTotal (goes : p.after capacity a = some p') : p'.total = p.total + p.counted a := by
  cases a with
  | read bytes =>
    cases at' : p.stage <;> simp only [after, at', reduceCtorEq] at goes
    split at goes <;> try contradiction
    split at goes <;> cases goes <;> simp [counted, at']
  | wrote count =>
    cases at' : p.stage <;> simp only [after, at', reduceCtorEq] at goes
    split at goes <;> try contradiction
    split at goes <;> try split at goes
    all_goals
      cases goes
      simp [counted, at']
  | _ =>
    cases at' : p.stage <;> simp only [after, at', reduceCtorEq, Option.some.injEq] at goes
    all_goals
      subst goes
      simp [counted, at']

end TunnelRelay.Pump
