import TunnelRelay.Tunnel.Closing

/-! A caller whose steps nothing comes between. Closing a tunnel alone, or registering a
handler alone, is a run of its one thread to the end: the bound on its steps is enough,
since what the handlers lead to is bounded by their bodies. The handlers tell what they
would tell one after another. -/
namespace TunnelRelay.Closing

inductive Alone : Closing → Thread → Nat → Closing → Prop where
  | done (c : Closing) : Alone c [] 0 c
  | step {c c' e : Closing} {i : Instruction} {more rest : Thread} {n : Nat}
      (executes : c.execute i = some (c', more)) (goes : Alone c' (more ++ rest) n e) : Alone c (i :: rest) (n + 1) e

theorem aloneAppend {c d e : Closing} {first second : Thread} {m n : Nat} (goes : Alone c first m d)
    (later : Alone d second n e) : Alone c (first ++ second) (m + n) e := by
  induction goes with
  | done c => simpa using later
  | @step c c' d i more rest m executes goes ih =>
    have rest' := ih later
    rw [List.append_assoc] at rest'
    rw [show m + 1 + n = m + n + 1 by omega]
    exact .step executes rest'

theorem aloneRuns {c e : Closing} {t : Thread} {n bound : Nat} (goes : Alone c t n e) (enough : n ≤ bound) :
    runAlone bound c t = e := by
  induction goes generalizing bound with
  | done c => cases bound <;> rfl
  | @step c c' e i more rest n executes goes ih =>
    cases bound with
    | zero => omega
    | succ bound =>
      simp only [runAlone, executes]
      exact ih (by omega)

def withThreads (c : Closing) (threads : List Thread) : Closing := { c with threads }

theorem executeThreads (c : Closing) (i : Instruction) (threads : List Thread) :
    (c.withThreads threads).execute i = (c.execute i).map fun r => (r.1.withThreads threads, r.2) := by
  cases i with
  | flag => cases closed : c.life.closed <;> simp [execute, withThreads, Lifecycle.flag, closed]
  | release => cases bound : c.life.listening <;> simp [execute, withThreads, Lifecycle.release, bound]
  | take => cases locked : c.locked <;> simp [execute, withThreads, locked]
  | register h => cases locked : c.locked <;> cases closed : c.life.closed <;> simp [execute, withThreads, locked, closed]
  | wait => cases stopped : c.stopped <;> simp [execute, withThreads, stopped]
  | cancel | push | run | mark | stop => rfl

theorem aloneSchedule {c e : Closing} {t : Thread} {n : Nat} (goes : Alone c t n e) :
    (List.replicate n 0).foldlM step (c.withThreads [t]) = some (e.withThreads [[]]) := by
  induction goes with
  | done c => rfl
  | @step c c' e i more rest n executes goes ih =>
    have stepped : (c.withThreads [i :: rest]).step 0 = some (c'.withThreads [more ++ rest]) := by
      have moved := executeThreads c i [i :: rest]
      rw [executes] at moved
      simp only [step, withThreads, List.getElem?_cons_zero, bind, Option.bind_some] at moved ⊢
      rw [moved]
      rfl
    rw [List.replicate_succ, List.foldlM_cons, stepped]
    exact ih

/- Once a tunnel is closed, what the handlers do changes nothing of its life. -/
structure Settled (l : Lifecycle Handler) (c : Closing) : Prop where
  life : c.life = l
  closed : l.closed = true
  unlocked : c.locked = false

def Finishes (l : Lifecycle Handler) (c : Closing) (t : Thread) (bound : Nat) (told : List HandlerNote) : Prop :=
  ∃ n e, Alone c t n e ∧ n ≤ bound ∧ Settled l e ∧ e.notes = c.notes ++ told

theorem finishesAppend {l : Lifecycle Handler} {c : Closing} {first second : Thread} {m n : Nat}
    {told more : List HandlerNote} (goes : Finishes l c first m told)
    (later : ∀ d, Settled l d → Finishes l d second n more) :
    Finishes l c (first ++ second) (m + n) (told ++ more) := by
  obtain ⟨i, d, alone, within, settled, notes⟩ := goes
  obtain ⟨j, e, alone', within', settled', notes'⟩ := later d settled
  exact ⟨i + j, e, aloneAppend alone alone', by omega, settled', by rw [notes', notes, List.append_assoc]⟩

mutual

theorem actFinishes {l : Lifecycle Handler} {c : Closing} (settled : Settled l c) :
    (act : HandlerAct) → Finishes l c [ofAct act] (actWeight act) (actNotes act)
  | .dispose => by
    have closed : c.life.closed = true := settled.life ▸ settled.closed
    have again : c.execute .flag = some (c, []) := by simp [execute, Lifecycle.flagClosed closed]
    exact ⟨1, c, .step again (.done c), by simp [actWeight], settled, by simp [actNotes]⟩
  | .mark text => by
    have marked : c.execute (.mark text) = some ({ c with notes := c.notes ++ [.marked text] }, []) := rfl
    exact ⟨1, _, .step marked (.done _), by simp [actWeight], ⟨settled.life, settled.closed, settled.unlocked⟩,
      by simp [actNotes]⟩
  | .register name body => by
    have closed : c.life.closed = true := settled.life ▸ settled.closed
    have overdue : c.execute (.register ⟨name, body⟩) = some (c, [.run ⟨name, body⟩]) := by
      simp [execute, settled.unlocked, closed]
    obtain ⟨n, e, alone, within, settled', notes⟩ := bodyFinishes
      (c := { c with notes := c.notes ++ [.started name c.life.closed] })
      ⟨settled.life, settled.closed, settled.unlocked⟩ body
    exact ⟨n + 2, e, .step overdue (.step rfl (by simpa using alone)), by simp [actWeight]; omega, settled',
      by simpa [actNotes, closed] using notes⟩

theorem bodyFinishes {l : Lifecycle Handler} {c : Closing} (settled : Settled l c) :
    (body : List HandlerAct) → Finishes l c (body.map ofAct) (bodyWeight body) (bodyNotes body)
  | [] => ⟨0, c, .done c, Nat.le_refl _, settled, by simp [bodyNotes]⟩
  | act :: rest => finishesAppend (actFinishes settled act) fun _ settled' => bodyFinishes settled' rest

end

theorem runFinishes {l : Lifecycle Handler} {c : Closing} (settled : Settled l c) (h : Handler) :
    Finishes l c [.run h] (handlerWeight h) (handlerNotes h) := by
  have closed : c.life.closed = true := settled.life ▸ settled.closed
  obtain ⟨n, e, alone, within, settled', notes⟩ := bodyFinishes
    (c := { c with notes := c.notes ++ [.started h.name c.life.closed] })
    ⟨settled.life, settled.closed, settled.unlocked⟩ h.body
  exact ⟨n + 1, e, .step rfl (by simpa using alone), by simp [handlerWeight]; omega, settled',
    by simpa [handlerNotes, closed] using notes⟩

theorem handlersFinish {l : Lifecycle Handler} {c : Closing} (settled : Settled l c) (handlers : List Handler) :
    Finishes l c (handlers.map .run) (handlersWeight handlers) (handlers.flatMap handlerNotes) := by
  induction handlers generalizing c with
  | nil => exact ⟨0, c, .done c, Nat.le_refl _, settled, by simp⟩
  | cons h rest ih =>
    rw [List.flatMap_cons]
    exact finishesAppend (runFinishes settled h) fun _ settled' => ih settled'

theorem closeFinishes (l : Lifecycle Handler) :
    Finishes l.dispose.1 { life := l } [.flag] (4 + handlersWeight l.handlers) (l.dispose.2.flatMap handlerNotes) := by
  cases closed : l.closed with
  | true =>
    rw [Lifecycle.disposeAgain closed]
    have again : execute { life := l } .flag = some ({ life := l }, []) := by simp [execute, Lifecycle.flagClosed closed]
    exact ⟨1, { life := l }, .step again (.done _), by omega, ⟨rfl, closed, rfl⟩, rfl⟩
  | false =>
    let taken : Lifecycle Handler := { closed := true, cancelled := true, listening := false }
    let releases := if l.listening then 1 else 0
    have disposed : l.dispose = (taken, l.handlers) := Lifecycle.disposeOpen closed
    have flag : execute { life := l } .flag =
        some ({ life := { l with closed := true } }, [.cancel, .release, .take]) := by
      simp [execute, Lifecycle.flagOpen closed]
    have release : execute { life := { l with closed := true }.cancel } .release =
        some ({ life := { taken with handlers := l.handlers }, releases }, []) := by
      cases bound : l.listening <;> simp [execute, Lifecycle.release, Lifecycle.cancel, bound, taken, releases]
    have take : execute { life := { taken with handlers := l.handlers }, releases } .take =
        some ({ life := taken, releases }, l.handlers.map .run) := by
      simp [execute, Lifecycle.take, taken]
    have settled : Settled taken { life := taken, releases } := ⟨rfl, rfl, rfl⟩
    obtain ⟨n, e, alone, within, settled', notes⟩ := handlersFinish settled l.handlers
    rw [disposed]
    exact ⟨n + 4, e, .step flag (.step rfl (.step release (.step take (by simpa using alone)))), by omega, settled',
      notes⟩

theorem closeRuns (l : Lifecycle Handler) :
    ∃ n e, (List.replicate n 0).foldlM step { life := l, threads := [[.flag]] } = some (withThreads e [[]]) ∧
      l.close = (e.life, e.notes) ∧ e.life = l.dispose.1 ∧ e.notes = l.dispose.2.flatMap handlerNotes := by
  obtain ⟨n, e, alone, within, settled, notes⟩ := closeFinishes l
  exact ⟨n, e, aloneSchedule alone, by rw [Lifecycle.close, aloneRuns alone within], settled.life, notes⟩

theorem registerRuns (l : Lifecycle Handler) (h : Handler) :
    ∃ n e, (List.replicate n 0).foldlM step { life := l, threads := [[.register h]] } = some (withThreads e [[]]) ∧
      l.onClosed h = (e.life, e.notes) ∧ e.life = (l.register h).1 ∧
      e.notes = (l.register h).2.flatMap handlerNotes := by
  cases closed : l.closed with
  | true =>
    obtain ⟨n, e, alone, within, settled, notes⟩ := runFinishes (c := { life := l }) ⟨rfl, closed, rfl⟩ h
    have overdue : execute { life := l } (.register h) = some ({ life := l }, [.run h]) := by simp [execute, closed]
    have goes : Alone { life := l } [.register h] (n + 1) e := .step overdue (by simpa using alone)
    refine ⟨n + 1, e, aloneSchedule goes, by rw [Lifecycle.onClosed, aloneRuns goes (by omega)], ?_, ?_⟩
    · rw [settled.life, Lifecycle.registerClosed closed]
    · rw [Lifecycle.registerClosed closed, List.flatMap_singleton]
      exact notes
  | false =>
    have lock : execute { life := l } (.register h) = some ({ life := l, locked := true }, [.push h]) := by
      simp [execute, closed]
    have push : execute { life := l, locked := true } (.push h) =
        some ({ life := { l with handlers := l.handlers ++ [h] } }, []) := rfl
    have goes : Alone { life := l } [.register h] 2 { life := { l with handlers := l.handlers ++ [h] } } :=
      .step lock (.step push (.done _))
    refine ⟨2, _, aloneSchedule goes, ?_, ?_, ?_⟩
    · rw [Lifecycle.onClosed, aloneRuns goes (by simp [handlerWeight]; omega)]
    · rw [Lifecycle.registerOpen closed]
    · rw [Lifecycle.registerOpen closed]
      rfl

theorem closeComes (l : Lifecycle Handler) : l.close = (l.dispose.1, l.dispose.2.flatMap handlerNotes) := by
  obtain ⟨n, e, -, same, life, notes⟩ := closeRuns l
  rw [same, life, notes]

theorem registerComes (l : Lifecycle Handler) (h : Handler) :
    l.onClosed h = ((l.register h).1, (l.register h).2.flatMap handlerNotes) := by
  obtain ⟨n, e, -, same, life, notes⟩ := registerRuns l h
  rw [same, life, notes]

end TunnelRelay.Closing
