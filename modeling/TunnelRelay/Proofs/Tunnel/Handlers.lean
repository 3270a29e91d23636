import Mathlib.Data.List.Induction
import Mathlib.Data.List.Perm.Subperm
import TunnelRelay.Proofs.Tunnel.Threads

/-! What becomes of a tunnel's handlers, however its callers' steps fall together.
The first caller to set the flag closes the tunnel; its thread carries what is left
of the closing, and nobody else's does. Up to the moment when it takes the handlers
they are all that was registered before the flag was set, in that order. -/
namespace TunnelRelay.Closing

inductive Moment where
  | registered (h : Handler) (late : Bool)
  | ran (h : Handler)

def Moment.early? : Moment → Option Handler
  | registered h false => some h
  | _ => none

def Moment.late? : Moment → Option Handler
  | registered h true => some h
  | _ => none

def Moment.ran? : Moment → Option Handler
  | ran h => some h
  | _ => none

def Instruction.moments (closed : Bool) : Instruction → List Moment
  | register h => [.registered h closed]
  | run h => [.ran h]
  | _ => []

def early (past : List Moment) : List Handler := past.filterMap Moment.early?

def late (past : List Moment) : List Handler := past.filterMap Moment.late?

def ran (past : List Moment) : List Handler := past.filterMap Moment.ran?

def follow (w : Closing × List Moment) (thread : Nat) : Option (Closing × List Moment) := do
  let i ← (← w.1.threads[thread]?).head?
  some (← w.1.step thread, w.2 ++ i.moments w.1.life.closed)

def history (c : Closing) (schedule : List Nat) : Option (Closing × List Moment) := schedule.foldlM follow (c, [])

inductive Phase where
  | opened | cancelling | releasing | taking | taken

def Phase.tail : Phase → Thread
  | cancelling => [.cancel, .release, .take]
  | releasing => [.release, .take]
  | taking => [.take]
  | opened | taken => []

def Phase.listening : Phase → Bool
  | opened | cancelling | releasing => true
  | taking | taken => false

def Phase.cancelled : Phase → Bool
  | opened | cancelling => false
  | releasing | taking | taken => true

structure Progress (c : Closing) (phase : Phase) (d : Nat) : Prop where
  closed : c.life.closed = true ↔ phase ≠ .opened
  cancelled : c.life.cancelled = phase.cancelled
  listening : c.life.listening = phase.listening
  releases : c.releases = if phase.listening then 0 else 1
  closer : Closer c.threads d phase.tail
  known : phase ≠ .opened → d < c.threads.length

/- Where a tunnel stands after all that has happened. Until they are taken, the handlers are
those registered before the flag was set, or else they were run or are about to be. -/
structure Stands (c : Closing) (past : List Moment) (phase : Phase) (d : Nat) : Prop extends Progress c phase d where
  lock : (total Instruction.push? c.threads).length = if c.locked then 1 else 0
  untimely : c.life.closed = false → late past = []
  balance : (ran past ++ total Instruction.run? c.threads ++
    (c.life.handlers ++ total Instruction.push? c.threads)).Perm (early past ++ late past)
  waiting : phase ≠ .taken → c.life.handlers ++ total Instruction.push? c.threads = early past
  emptied : phase = .taken → c.life.handlers = [] ∧ total Instruction.push? c.threads = []
  ordered : phase = .taken → ∃ t, c.threads[d]? = some t ∧
    (early past).Sublist (ran past ++ t.filterMap Instruction.run?)

theorem tailCloses (phase : Phase) : ∀ x ∈ phase.tail, x.closing = true := by
  cases phase <;> simp [Phase.tail, Instruction.closing]

theorem actsClear (body : List HandlerAct) : Clear (body.map ofAct) := by
  intro i mem
  obtain ⟨act, -, rfl⟩ := List.mem_map.mp mem
  cases act <;> rfl

theorem actsRun (body : List HandlerAct) : (body.map ofAct).filterMap Instruction.run? = [] := by
  rw [List.filterMap_eq_nil_iff]
  intro i mem
  obtain ⟨act, -, rfl⟩ := List.mem_map.mp mem
  cases act <;> rfl

theorem actsPush (body : List HandlerAct) : (body.map ofAct).filterMap Instruction.push? = [] := by
  rw [List.filterMap_eq_nil_iff]
  intro i mem
  obtain ⟨act, -, rfl⟩ := List.mem_map.mp mem
  cases act <;> rfl

theorem runsClear (handlers : List Handler) : Clear (handlers.map .run) := by
  intro i mem
  obtain ⟨h, -, rfl⟩ := List.mem_map.mp mem
  rfl

theorem runsRun (handlers : List Handler) : (handlers.map Instruction.run).filterMap Instruction.run? = handlers := by
  induction handlers with
  | nil => rfl
  | cons h rest ih => simp [Instruction.run?, ih]

theorem runsPush (handlers : List Handler) : (handlers.map Instruction.run).filterMap Instruction.push? = [] := by
  induction handlers with
  | nil => rfl
  | cons h rest ih => simp [Instruction.push?]

section
variable {c c' : Closing} {past : List Moment} {phase : Phase} {n d : Nat} {i : Instruction} {h : Handler}
  {rest m : Thread}

def gone (c : Closing) (n : Nat) (t : Thread) : Closing := { c with threads := c.threads.set n t }

theorem openPhase (progress : Progress c phase d) (opened : c.life.closed = false) : phase = .opened := by
  by_contra other
  simp [progress.closed.mpr other] at opened

theorem partPhase (progress : Progress c phase d) (found : c.threads[n]? = some (i :: rest))
    (part : i.closing = true) : ∃ tail, phase.tail = i :: tail := by
  obtain ⟨-, tail, split, -⟩ := closerMoves (m := []) progress.closer found part (by simp [Clear])
  exact ⟨tail, split⟩

theorem cancelPhase (progress : Progress c phase d) (found : c.threads[n]? = some (.cancel :: rest)) :
    phase = .cancelling := by
  obtain ⟨tail, split⟩ := partPhase progress found rfl
  cases phase <;> first | rfl | cases split

theorem releasePhase (progress : Progress c phase d) (found : c.threads[n]? = some (.release :: rest)) :
    phase = .releasing := by
  obtain ⟨tail, split⟩ := partPhase progress found rfl
  cases phase <;> first | rfl | cases split

theorem takePhase (progress : Progress c phase d) (found : c.threads[n]? = some (.take :: rest)) :
    phase = .taking := by
  obtain ⟨tail, split⟩ := partPhase progress found rfl
  cases phase <;> first | rfl | cases split

def outline (c : Closing) : Bool × Bool × Bool × Nat × List Thread :=
  (c.life.closed, c.life.cancelled, c.life.listening, c.releases, c.threads)

theorem progressKept (progress : Progress c phase d) (found : c.threads[n]? = some (i :: rest))
    (other : i.closing = false) (clear : Clear m) (same : c'.outline = c.outline) :
    Progress (c'.gone n (m ++ rest)) phase d := by
  simp only [outline, Prod.mk.injEq] at same
  obtain ⟨closed, cancelled, listening, releases, threads⟩ := same
  have closer := closerKept progress.closer (tailCloses phase) found other clear
  have known := progress.known
  rw [← threads] at closer known
  refine ⟨?_, ?_, ?_, ?_, closer, fun other => ?_⟩
  · rw [gone, closed]
    exact progress.closed
  · rw [gone, cancelled]
    exact progress.cancelled
  · rw [gone, listening]
    exact progress.listening
  · rw [gone, releases]
    exact progress.releases
  · rw [gone, List.length_set]
    exact known other

theorem progressMoves (next : Phase) (progress : Progress c phase d) (found : c.threads[n]? = some (i :: rest))
    (part : phase.tail = i :: next.tail) (begun : next ≠ .opened) (clear : Clear m) (lone : m = [] ∨ next.tail = [])
    (threads : c'.threads = c.threads) (closed : c'.life.closed = c.life.closed)
    (cancelled : c'.life.cancelled = next.cancelled) (listening : c'.life.listening = next.listening)
    (releases : c'.releases = if next.listening then 0 else 1) :
    n = d ∧ Progress (c'.gone n (m ++ rest)) next d := by
  have other : phase ≠ .opened := by
    rintro rfl
    cases part
  obtain ⟨here, tail, split, closer⟩ :=
    closerMoves progress.closer found (tailCloses phase i (by simp [part])) clear
  cases part.symm.trans split
  have closer' := closer lone
  have known := progress.known other
  rw [← threads] at closer' known
  refine ⟨here, ?_, cancelled, listening, releases, closer', fun _ => ?_⟩
  · rw [gone, closed]
    exact ⟨fun _ => begun, fun _ => progress.closed.mpr other⟩
  · rw [gone, List.length_set]
    exact known

theorem orderedKept {P R : List Handler} (found : c.threads[n]? = some (i :: rest)) (silent : i.run? = none)
    (ordered : ∃ t, c.threads[d]? = some t ∧ P.Sublist (R ++ t.filterMap Instruction.run?)) :
    ∃ t, (c.threads.set n (m ++ rest))[d]? = some t ∧ P.Sublist (R ++ t.filterMap Instruction.run?) := by
  obtain ⟨t, known, sub⟩ := ordered
  by_cases here : d = n
  · subst here
    cases found.symm.trans known
    refine ⟨_, threadSelf found _, sub.trans ?_⟩
    rw [List.filterMap_cons_none silent, List.filterMap_append]
    exact List.Sublist.append_left (List.sublist_append_right _ _) R
  · exact ⟨t, (threadOther here _).trans known, sub⟩

theorem orderedRun {P R : List Handler} (found : c.threads[n]? = some (.run h :: rest))
    (none' : m.filterMap Instruction.run? = [])
    (ordered : ∃ t, c.threads[d]? = some t ∧ P.Sublist (R ++ t.filterMap Instruction.run?)) :
    ∃ t, (c.threads.set n (m ++ rest))[d]? = some t ∧
      P.Sublist (R ++ [h] ++ t.filterMap Instruction.run?) := by
  obtain ⟨t, known, sub⟩ := ordered
  by_cases here : d = n
  · subst here
    cases found.symm.trans known
    refine ⟨_, threadSelf found _, ?_⟩
    simpa [none', Instruction.run?] using sub
  · refine ⟨t, (threadOther here _).trans known, sub.trans ?_⟩
    exact List.Sublist.append_right (List.sublist_append_left R [h]) _

theorem standsQuiet (stands : Stands c past phase d) (found : c.threads[n]? = some (i :: rest))
    (life : c'.life = c.life) (locked : c'.locked = c.locked) (releases : c'.releases = c.releases)
    (threads : c'.threads = c.threads) (other : i.closing = false) (silent : i.run? = none) (idle : i.push? = none) :
    Stands (c'.gone n rest) past phase d := by
  have runs := totalSame (m := []) found silent rfl
  have pushes := totalSame (m := []) found idle rfl
  rw [List.nil_append] at runs pushes
  refine ⟨progressKept (m := []) stands.toProgress found other (by simp [Clear])
    (by simp [outline, life, releases, threads]), ?_, ?_, ?_, ?_, ?_, ?_⟩ <;>
    simp only [gone, life, locked, threads, runs, pushes]
  · exact stands.lock
  · exact stands.untimely
  · exact stands.balance
  · exact stands.waiting
  · exact stands.emptied
  · exact fun taken => orderedKept (m := []) found silent (stands.ordered taken)

theorem standsFlag (stands : Stands c past phase d) (found : c.threads[n]? = some (.flag :: rest))
    (opened : c.life.closed = false) :
    Stands (gone { c with life := { c.life with closed := true } } n ([.cancel, .release, .take] ++ rest))
      past .cancelling n := by
  obtain rfl := openPhase stands.toProgress opened
  have runs := totalSame (m := [.cancel, .release, .take]) (f := Instruction.run?) found rfl rfl
  have pushes := totalSame (m := [.cancel, .release, .take]) (f := Instruction.push?) found rfl rfl
  obtain ⟨bound, -⟩ := List.getElem?_eq_some_iff.mp found
  refine ⟨⟨?_, stands.cancelled, stands.listening, stands.releases, closerBegins stands.closer found, ?_⟩,
    ?_, ?_, ?_, ?_, ?_, ?_⟩ <;> simp only [gone, runs, pushes]
  · simp
  · simpa using bound
  · exact stands.lock
  · simp
  · exact stands.balance
  · exact fun _ => stands.waiting (by simp)
  · simp
  · simp

theorem standsMoves (next : Phase) (stands : Stands c past phase d) (found : c.threads[n]? = some (i :: rest))
    (part : phase.tail = i :: next.tail) (begun : next ≠ .opened) (untaken : phase ≠ .taken ∧ next ≠ .taken)
    (silent : i.run? = none) (idle : i.push? = none) (outside : c'.threads = c.threads ∧ c'.locked = c.locked)
    (handlers : c'.life.handlers = c.life.handlers) (closed : c'.life.closed = c.life.closed)
    (cancelled : c'.life.cancelled = next.cancelled) (listening : c'.life.listening = next.listening)
    (releases : c'.releases = if next.listening then 0 else 1) :
    Stands (c'.gone n rest) past next d := by
  have runs := totalSame (m := []) found silent rfl
  have pushes := totalSame (m := []) found idle rfl
  rw [List.nil_append] at runs pushes
  obtain ⟨threads, locked⟩ := outside
  obtain ⟨-, progress⟩ := progressMoves (m := []) next stands.toProgress found part begun (by simp [Clear]) (.inl rfl)
    threads closed cancelled listening releases
  refine ⟨progress, ?_, ?_, ?_, ?_, ?_, ?_⟩ <;> simp only [gone, threads, locked, handlers, closed, runs, pushes]
  · exact stands.lock
  · exact stands.untimely
  · exact stands.balance
  · exact fun _ => stands.waiting untaken.1
  · exact fun taken => absurd taken untaken.2
  · exact fun taken => absurd taken untaken.2

theorem standsCancel (stands : Stands c past phase d) (found : c.threads[n]? = some (.cancel :: rest)) :
    Stands (gone { c with life := c.life.cancel } n rest) past .releasing d := by
  obtain rfl := cancelPhase stands.toProgress found
  exact standsMoves .releasing stands found rfl (by simp) (by simp) rfl rfl ⟨rfl, rfl⟩ rfl rfl rfl stands.listening
    stands.releases

theorem standsRelease (stands : Stands c past phase d) (found : c.threads[n]? = some (.release :: rest)) :
    Stands (gone { c with life := { c.life with listening := false }, releases := c.releases + 1 } n rest)
      past .taking d := by
  obtain rfl := releasePhase stands.toProgress found
  exact standsMoves .taking stands found rfl (by simp) (by simp) rfl rfl ⟨rfl, rfl⟩ rfl rfl stands.cancelled rfl
    (by simp [stands.releases, Phase.listening])

theorem standsTake (stands : Stands c past phase d) (found : c.threads[n]? = some (.take :: rest))
    (free : c.locked = false) :
    Stands (gone { c with life := { c.life with handlers := [] } } n (c.life.handlers.map .run ++ rest))
      past .taken d := by
  obtain rfl := takePhase stands.toProgress found
  have pushes := totalSame (f := Instruction.push?) found rfl (runsPush c.life.handlers)
  have unpushed : total Instruction.push? c.threads = [] := by simpa [free] using stands.lock
  have waiting := stands.waiting (by simp)
  rw [unpushed, List.append_nil] at waiting
  have moved : n = d ∧ Progress
      (gone { c with life := { c.life with handlers := [] } } n (c.life.handlers.map .run ++ rest)) .taken d :=
    progressMoves .taken stands.toProgress found rfl (by simp) (runsClear c.life.handlers) (.inr rfl) rfl rfl
      stands.cancelled stands.listening stands.releases
  obtain ⟨rfl, progress⟩ := moved
  refine ⟨progress, ?lock, ?untimely, ?balance, ?waiting, ?emptied, ?ordered⟩ <;> simp only [gone, pushes]
  case lock => exact stands.lock
  case untimely => exact stands.untimely
  case balance =>
    refine List.Perm.trans ?_ stands.balance
    obtain ⟨left, right, before, after⟩ := totalStep Instruction.run? found
    simp only [before, after, runsRun, unpushed, Instruction.run?, Option.toList_none, List.append_nil]
    classical
    simp only [List.perm_iff_count, List.count_append]
    intro h
    omega
  case waiting => simp
  case emptied => exact fun _ => ⟨trivial, unpushed⟩
  case ordered =>
    refine fun _ => ⟨_, threadSelf found _, ?_⟩
    rw [List.filterMap_append, runsRun, waiting, ← List.append_assoc]
    exact (List.sublist_append_right _ _).trans (List.sublist_append_left _ _)

theorem standsLock (stands : Stands c past phase d) (found : c.threads[n]? = some (.register h :: rest))
    (free : c.locked = false) (opened : c.life.closed = false) :
    Stands (gone { c with locked := true } n ([.push h] ++ rest)) (past ++ [.registered h false]) phase d := by
  obtain rfl := openPhase stands.toProgress opened
  have runs := totalSame (m := [.push h]) (f := Instruction.run?) found rfl rfl
  have unpushed : total Instruction.push? c.threads = [] := by simpa [free] using stands.lock
  have pushes : total Instruction.push? (c.threads.set n ([.push h] ++ rest)) = [h] := by
    obtain ⟨left, right, before, after⟩ := totalStep Instruction.push? found
    rw [before] at unpushed
    simp only [List.append_eq_nil_iff] at unpushed
    exact (after [.push h]).trans (by simp [unpushed, Instruction.push?])
  have waiting := stands.waiting (by simp)
  have balance := stands.balance
  have added : early (past ++ [.registered h false]) = early past ++ [h] := by simp [early, Moment.early?]
  have same : late (past ++ [.registered h false]) = late past := by simp [late, Moment.late?]
  have silent : ran (past ++ [.registered h false]) = ran past := by simp [ran, Moment.ran?]
  rw [unpushed, List.append_nil] at waiting
  refine ⟨progressKept stands.toProgress found rfl (by simp [Clear, Instruction.closing]) rfl,
    ?lock, ?untimely, ?balance, ?waiting, ?emptied, ?ordered⟩ <;> simp only [gone, runs, pushes, added, same, silent]
  case lock => simp
  case untimely => exact stands.untimely
  case balance =>
    rw [unpushed] at balance
    classical
    simp only [List.perm_iff_count, List.count_append] at balance ⊢
    intro x
    have := balance x
    simp only [List.count_nil] at this
    omega
  case waiting => exact fun _ => by rw [waiting]
  case emptied => simp
  case ordered => simp

theorem standsOverdue (stands : Stands c past phase d) (found : c.threads[n]? = some (.register h :: rest))
    (closed : c.life.closed = true) :
    Stands (gone c n ([.run h] ++ rest)) (past ++ [.registered h true]) phase d := by
  have pushes := totalSame (m := [.run h]) (f := Instruction.push?) found rfl rfl
  have same : early (past ++ [.registered h true]) = early past := by simp [early, Moment.early?]
  have added : late (past ++ [.registered h true]) = late past ++ [h] := by simp [late, Moment.late?]
  have silent : ran (past ++ [.registered h true]) = ran past := by simp [ran, Moment.ran?]
  refine ⟨progressKept stands.toProgress found rfl (by simp [Clear, Instruction.closing]) rfl,
    ?lock, ?untimely, ?balance, ?waiting, ?emptied, ?ordered⟩ <;> simp only [gone, pushes, added, same, silent]
  case lock => exact stands.lock
  case untimely => simp [closed]
  case balance =>
    have balance := stands.balance
    obtain ⟨left, right, before, after⟩ := totalStep Instruction.run? found
    have due : [Instruction.run h].filterMap Instruction.run? = [h] := rfl
    simp only [before, after, due, Instruction.run?, Option.toList_none, List.append_nil] at balance ⊢
    classical
    simp only [List.perm_iff_count, List.count_append] at balance ⊢
    intro x
    have := balance x
    omega
  case waiting => exact stands.waiting
  case emptied => exact stands.emptied
  case ordered => exact fun taken => orderedKept (m := [.run h]) found rfl (stands.ordered taken)

theorem standsPush (stands : Stands c past phase d) (found : c.threads[n]? = some (.push h :: rest)) :
    Stands (gone { c with life := { c.life with handlers := c.life.handlers ++ [h] }, locked := false } n rest)
      past phase d := by
  have runs := totalSame (m := []) (f := Instruction.run?) found rfl rfl
  obtain ⟨left, right, before, after⟩ := totalStep Instruction.push? found
  have lone : left = [] ∧ right = [] := by
    have single := stands.lock
    simp only [before, Instruction.push?, Option.toList_some, List.length_append, List.length_singleton] at single
    split at single
    · exact ⟨List.eq_nil_of_length_eq_zero (by omega), List.eq_nil_of_length_eq_zero (by omega)⟩
    · omega
  have pushing : total Instruction.push? c.threads = [h] := by simp [before, lone, Instruction.push?]
  have pushes : total Instruction.push? (c.threads.set n rest) = [] := by simpa [lone] using after []
  have untaken : phase ≠ .taken := fun taken => by simpa [pushing] using (stands.emptied taken).2
  have waiting := stands.waiting untaken
  have balance := stands.balance
  rw [pushing] at waiting balance
  rw [List.nil_append] at runs
  refine ⟨progressKept (m := []) stands.toProgress found rfl (by simp [Clear]) rfl,
    ?lock, ?untimely, ?balance, ?waiting, ?emptied, ?ordered⟩ <;> simp only [gone, runs, pushes, List.append_nil]
  case lock => simp
  case untimely => exact stands.untimely
  case balance => exact balance
  case waiting => exact fun _ => waiting
  case emptied => exact fun taken => absurd taken untaken
  case ordered => exact fun taken => absurd taken untaken

theorem standsRun (stands : Stands c past phase d) (found : c.threads[n]? = some (.run h :: rest))
    (notes : List HandlerNote) :
    Stands (gone { c with notes } n (h.body.map ofAct ++ rest)) (past ++ [.ran h]) phase d := by
  have pushes := totalSame (f := Instruction.push?) found rfl (actsPush h.body)
  have same : early (past ++ [.ran h]) = early past := by simp [early, Moment.early?]
  have same' : late (past ++ [.ran h]) = late past := by simp [late, Moment.late?]
  have added : ran (past ++ [.ran h]) = ran past ++ [h] := by simp [ran, Moment.ran?]
  refine ⟨progressKept stands.toProgress found rfl (actsClear h.body) rfl,
    ?lock, ?untimely, ?balance, ?waiting, ?emptied, ?ordered⟩ <;> simp only [gone, pushes, added, same, same']
  case lock => exact stands.lock
  case untimely => exact stands.untimely
  case balance =>
    have balance := stands.balance
    obtain ⟨left, right, before, after⟩ := totalStep Instruction.run? found
    simp only [before, after, actsRun, Instruction.run?, Option.toList_some, List.append_nil] at balance ⊢
    classical
    simp only [List.perm_iff_count, List.count_append] at balance ⊢
    intro x
    have := balance x
    omega
  case waiting => exact stands.waiting
  case emptied => exact stands.emptied
  case ordered => exact fun taken => orderedRun found (actsRun h.body) (stands.ordered taken)

theorem standsStep (stands : Stands c past phase d) (found : c.threads[n]? = some (i :: rest))
    (effect : Effect c i c' m) :
    ∃ phase d, Stands (c'.gone n (m ++ rest)) (past ++ i.moments c.life.closed) phase d := by
  cases effect with
  | lock h free opened =>
    rw [opened]
    exact ⟨phase, d, standsLock stands found free opened⟩
  | overdue h free closed =>
    rw [closed]
    exact ⟨phase, d, standsOverdue stands found closed⟩
  | run h => exact ⟨phase, d, standsRun stands found _⟩
  | released free =>
    obtain rfl := releasePhase stands.toProgress found
    cases free.symm.trans stands.listening
  | flag opened =>
    simp only [Instruction.moments, List.append_nil]
    exact ⟨_, _, standsFlag stands found opened⟩
  | cancel =>
    simp only [Instruction.moments, List.append_nil]
    exact ⟨_, _, standsCancel stands found⟩
  | release =>
    simp only [Instruction.moments, List.append_nil]
    exact ⟨_, _, standsRelease stands found⟩
  | take free =>
    simp only [Instruction.moments, List.append_nil]
    exact ⟨_, _, standsTake stands found free⟩
  | push h =>
    simp only [Instruction.moments, List.append_nil]
    exact ⟨_, _, standsPush stands found⟩
  | again =>
    simp only [Instruction.moments, List.append_nil]
    exact ⟨phase, d, standsQuiet stands found rfl rfl rfl rfl rfl rfl rfl⟩
  | mark =>
    simp only [Instruction.moments, List.append_nil]
    exact ⟨phase, d, standsQuiet stands found rfl rfl rfl rfl rfl rfl rfl⟩
  | stop =>
    simp only [Instruction.moments, List.append_nil]
    exact ⟨phase, d, standsQuiet stands found rfl rfl rfl rfl rfl rfl rfl⟩
  | wait =>
    simp only [Instruction.moments, List.append_nil]
    exact ⟨phase, d, standsQuiet stands found rfl rfl rfl rfl rfl rfl rfl⟩

end

theorem programPlain (call : Call) :
    Clear call.program ∧ call.program.filterMap Instruction.push? = [] ∧
      call.program.filterMap Instruction.run? = [] := by
  cases call with
  | loopEnds present =>
    cases present <;> simp [Call.program, Clear, Instruction.closing, Instruction.push?, Instruction.run?]
  | _ => simp [Call.program, Clear, Instruction.closing, Instruction.push?, Instruction.run?]

theorem callsPlain (calls : List (List Call)) :
    (∀ t ∈ (ofCalls calls).threads, Clear t) ∧ total Instruction.push? (ofCalls calls).threads = [] ∧
      total Instruction.run? (ofCalls calls).threads = [] := by
  refine ⟨?_, ?_, ?_⟩
  · intro t mem i inside
    obtain ⟨list, -, rfl⟩ := List.mem_map.mp mem
    obtain ⟨call, -, within⟩ := List.mem_flatMap.mp inside
    exact (programPlain call).1 i within
  · simp only [total, ofCalls, List.flatMap_map, List.filterMap_flatMap, (programPlain _).2.1]
    simp
  · simp only [total, ofCalls, List.flatMap_map, List.filterMap_flatMap, (programPlain _).2.2]
    simp

theorem standsAtFirst (calls : List (List Call)) : Stands (ofCalls calls) [] .opened 0 := by
  obtain ⟨clear, pushes, runs⟩ := callsPlain calls
  constructor
  case toProgress =>
    refine ⟨by simp [ofCalls], rfl, rfl, rfl, fun j t known => ?_, by simp⟩
    exact ⟨t, by simp [Phase.tail], clear t (List.mem_of_getElem? known)⟩
  case balance =>
    rw [pushes, runs]
    exact List.Perm.refl _
  case lock =>
    rw [pushes]
    rfl
  case waiting =>
    rw [pushes]
    exact fun _ => rfl
  all_goals simp [ofCalls, late]

theorem followed {c e : Closing} {past later : List Moment} {n : Nat} (went : follow (c, past) n = some (e, later)) :
    ∃ i rest c' m, c.threads[n]? = some (i :: rest) ∧ Effect c i c' m ∧ e = c'.gone n (m ++ rest) ∧
      later = past ++ i.moments c.life.closed := by
  simp only [follow, step, bind, Option.bind_eq_some_iff] at went
  obtain ⟨t, found, i, head, e', ⟨t', found', stepped⟩, last⟩ := went
  cases found.symm.trans found'
  cases t with
  | nil => contradiction
  | cons j rest =>
    cases Option.some.inj head
    obtain ⟨⟨c', m⟩, done, gone⟩ := Option.bind_eq_some_iff.mp stepped
    cases gone
    cases last
    exact ⟨i, rest, c', m, found, executed done, rfl, rfl⟩

theorem standsHistory {calls : List (List Call)} {schedule : List Nat} {c : Closing} {past : List Moment}
    (happened : history (ofCalls calls) schedule = some (c, past)) : ∃ phase d, Stands c past phase d := by
  induction schedule using List.reverseRecOn generalizing c past with
  | nil =>
    cases happened
    exact ⟨_, _, standsAtFirst calls⟩
  | append_singleton schedule n ih =>
    simp only [history, List.foldlM_append, List.foldlM_cons, List.foldlM_nil, bind_pure] at happened
    obtain ⟨⟨before, earlier⟩, first, went⟩ := Option.bind_eq_some_iff.mp happened
    obtain ⟨phase, d, stands⟩ := ih first
    obtain ⟨i, rest, c', m, found, effect, rfl, rfl⟩ := followed went
    exact standsStep stands found effect

/- Whatever tunnel's callers do, and however their steps fall together: no handler runs while the
tunnel is open, and before the socket is released only those that came after the flag was set; the
socket is released once; and when all is done after a close, every handler that was registered has
run once, those from before the close in the order of their registration. -/
theorem handlersRunOnce {calls : List (List Call)} {schedule : List Nat} {c : Closing} {past : List Moment}
    (happened : history (ofCalls calls) schedule = some (c, past)) :
    (c.life.closed = false → ran past = []) ∧
    (c.life.listening = true → (ran past).Subperm (late past)) ∧
    c.releases = (if c.life.listening then 0 else 1) ∧
    (c.life.closed = true → (∀ t ∈ c.threads, t = []) →
      (ran past).Perm (early past ++ late past) ∧ (early past).Sublist (ran past) ∧
        c.releases = 1 ∧ c.life.cancelled = true ∧ c.life.listening = false) := by
  obtain ⟨phase, d, stands⟩ := standsHistory happened
  have beforehand (untaken : phase ≠ .taken) : (ran past).Subperm (late past) := by
    have balance := stands.balance
    rw [stands.waiting untaken] at balance
    have kept := (List.perm_append_left_iff _).mp (List.perm_append_comm.trans balance)
    exact (List.sublist_append_left _ _).subperm.trans kept.subperm
  refine ⟨fun opened => ?unrun, fun listening => beforehand ?unreleased, ?once, fun closed finished => ?done⟩
  case unrun =>
    have none' := stands.untimely opened
    obtain rfl := openPhase stands.toProgress opened
    have sub := beforehand (by simp)
    rw [none'] at sub
    exact List.subperm_nil.mp sub
  case unreleased =>
    rintro rfl
    cases listening.symm.trans stands.listening
  case once => rw [stands.releases, stands.listening]
  case done =>
    have idle (f : Instruction → Option Handler) : total f c.threads = [] := by
      simp only [total, List.flatMap_eq_nil_iff]
      intro t mem
      rw [finished t mem]
      rfl
    -- The thread that closes the tunnel has nothing left to do.
    obtain rfl : phase = .taken := by
      have other := stands.closed.mp closed
      have there := List.getElem?_eq_getElem (stands.known other)
      obtain ⟨rest, split, -⟩ := stands.closer d _ there
      rw [finished _ (List.getElem_mem _)] at split
      have none' : phase.tail = [] := by simpa using (List.append_eq_nil_iff.mp split.symm).1
      cases phase with
      | opened => contradiction
      | taken => rfl
      | _ => cases none'
    obtain ⟨t, known, sub⟩ := stands.ordered rfl
    rw [finished t (List.mem_of_getElem? known), List.filterMap_nil, List.append_nil] at sub
    have balance := stands.balance
    rw [idle, idle, (stands.emptied rfl).1, List.append_nil, List.append_nil, List.append_nil] at balance
    exact ⟨balance, sub, stands.releases, stands.cancelled, stands.listening⟩

def rivals : List (List Call) :=
  [[.onClosed ⟨"first", []⟩], [.onClosed ⟨"second", [.dispose, .register "third" []]⟩], [.close],
    [.loopEnds true, .drop]]

def rivalry : List Nat := [0, 0, 1, 2, 2, 2, 1] ++ List.replicate 6 2 ++ [3, 3, 3, 2]

theorem handlersRunOnceRivals :
    let w := (history (ofCalls rivals) rivalry).getD ({}, [])
    w.1.threads.all List.isEmpty = true ∧ (early w.2).map Handler.name = ["first", "second"] ∧
      (late w.2).map Handler.name = ["third"] ∧ (ran w.2).Perm (early w.2 ++ late w.2) ∧
      (early w.2).Sublist (ran w.2) ∧ w.1.releases = 1 := by
  have runs : (history (ofCalls rivals) rivalry).isSome = true := by decide
  obtain ⟨w, happened⟩ := Option.isSome_iff_exists.mp runs
  have finished : ((history (ofCalls rivals) rivalry).getD ({}, [])).1.threads.all List.isEmpty = true := by decide
  have closed : ((history (ofCalls rivals) rivalry).getD ({}, [])).1.life.closed = true := by decide
  refine ⟨finished, by decide, by decide, ?_⟩
  rw [happened] at finished closed ⊢
  obtain ⟨all, ordered, released, -⟩ := (handlersRunOnce happened).2.2.2 closed fun t mem =>
    List.isEmpty_iff.mp (List.all_eq_true.mp finished t mem)
  exact ⟨all, ordered, released⟩

end TunnelRelay.Closing
