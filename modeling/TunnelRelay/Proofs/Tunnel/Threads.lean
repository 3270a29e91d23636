import TunnelRelay.Tunnel.Closing

/-! The threads of callers who close a tunnel: what an instruction does, what the threads
hold between them, and which of them has the closing to do. -/
namespace TunnelRelay.Closing

def Instruction.push? : Instruction → Option Handler
  | push h => some h
  | _ => none

def Instruction.run? : Instruction → Option Handler
  | run h => some h
  | _ => none

def Instruction.closing : Instruction → Bool
  | cancel | release | take => true
  | _ => false

inductive Effect (c : Closing) : Instruction → Closing → Thread → Prop where
  | flag (opened : c.life.closed = false) :
      Effect c .flag { c with life := { c.life with closed := true } } [.cancel, .release, .take]
  | again (closed : c.life.closed = true) : Effect c .flag c []
  | cancel : Effect c .cancel { c with life := c.life.cancel } []
  | release (bound : c.life.listening = true) :
      Effect c .release { c with life := { c.life with listening := false }, releases := c.releases + 1 } []
  | released (free : c.life.listening = false) : Effect c .release c []
  | take (free : c.locked = false) :
      Effect c .take { c with life := { c.life with handlers := [] } } (c.life.handlers.map .run)
  | lock (h : Handler) (free : c.locked = false) (opened : c.life.closed = false) :
      Effect c (.register h) { c with locked := true } [.push h]
  | overdue (h : Handler) (free : c.locked = false) (closed : c.life.closed = true) :
      Effect c (.register h) c [.run h]
  | push (h : Handler) : Effect c (.push h)
      { c with life := { c.life with handlers := c.life.handlers ++ [h] }, locked := false } []
  | run (h : Handler) :
      Effect c (.run h) { c with notes := c.notes ++ [.started h.name c.life.closed] } (h.body.map ofAct)
  | mark (text : String) : Effect c (.mark text) { c with notes := c.notes ++ [.marked text] } []
  | stop : Effect c .stop { c with stopped := true } []
  | wait (ended : c.stopped = true) : Effect c .wait c []

theorem executed {c c' : Closing} {i : Instruction} {more : Thread} (done : c.execute i = some (c', more)) :
    Effect c i c' more := by
  cases i with
  | flag =>
    cases closed : c.life.closed with
    | false =>
      simp only [execute, Lifecycle.flagOpen closed] at done
      cases done
      exact .flag closed
    | true =>
      simp only [execute, Lifecycle.flagClosed closed] at done
      cases done
      exact .again closed
  | cancel =>
    cases done
    exact .cancel
  | release =>
    cases bound : c.life.listening with
    | true =>
      simp only [execute, Lifecycle.release, bound] at done
      cases done
      exact .release bound
    | false =>
      have same : ({ c.life with listening := false } : Lifecycle Handler) = c.life := by rw [← bound]
      simp only [execute, Lifecycle.release, bound, same] at done
      cases done
      exact .released bound
  | take =>
    simp only [execute] at done
    split at done <;> try contradiction
    rename_i free
    cases done
    exact .take (by simpa using free)
  | register h =>
    simp only [execute] at done
    split at done <;> try contradiction
    rename_i free
    replace free : c.locked = false := by simpa using free
    split at done <;> rename_i closed <;> cases done
    · exact .overdue h free closed
    · exact .lock h free (by simpa using closed)
  | push h =>
    cases done
    exact .push h
  | run h =>
    cases done
    exact .run h
  | mark text =>
    cases done
    exact .mark text
  | stop =>
    cases done
    exact .stop
  | wait =>
    simp only [execute] at done
    split at done <;> try contradiction
    rename_i ended
    cases done
    exact .wait ended

def total (f : Instruction → Option Handler) (threads : List Thread) : List Handler :=
  threads.flatMap (·.filterMap f)

theorem totalSet (f : Instruction → Option Handler) {threads : List Thread} {n : Nat} {t : Thread}
    (found : threads[n]? = some t) :
    ∃ left right, total f threads = left ++ t.filterMap f ++ right ∧
      ∀ t', total f (threads.set n t') = left ++ t'.filterMap f ++ right := by
  induction threads generalizing n with
  | nil => simp at found
  | cons head tail ih =>
    cases n with
    | zero =>
      obtain rfl : head = t := by simpa using found
      exact ⟨[], total f tail, rfl, fun _ => rfl⟩
    | succ n =>
      obtain ⟨left, right, before, after⟩ := ih (by simpa using found)
      refine ⟨head.filterMap f ++ left, right, ?_, fun t' => ?_⟩
      · simp only [total, List.flatMap_cons] at before ⊢
        simp [before]
      · have rest := after t'
        simp only [total, List.set_cons_succ, List.flatMap_cons] at rest ⊢
        simp [rest]

theorem totalStep (f : Instruction → Option Handler) {threads : List Thread} {n : Nat} {i : Instruction}
    {rest : Thread} (found : threads[n]? = some (i :: rest)) :
    ∃ left right, total f threads = left ++ (f i).toList ++ right ∧
      ∀ m, total f (threads.set n (m ++ rest)) = left ++ m.filterMap f ++ right := by
  obtain ⟨left, right, before, after⟩ := totalSet f found
  refine ⟨left, rest.filterMap f ++ right, ?_, fun m => by simp [after]⟩
  cases used : f i <;> simp [before, used]

theorem totalSame {f : Instruction → Option Handler} {threads : List Thread} {n : Nat} {i : Instruction}
    {rest m : Thread} (found : threads[n]? = some (i :: rest)) (used : f i = none) (none' : m.filterMap f = []) :
    total f (threads.set n (m ++ rest)) = total f threads := by
  obtain ⟨left, right, before, after⟩ := totalStep f found
  simp [before, after, used, none']

theorem threadCases {threads : List Thread} {n j : Nat} {t t' u : Thread} (found : threads[n]? = some t)
    (known : (threads.set n t')[j]? = some u) : j = n ∧ u = t' ∨ j ≠ n ∧ threads[j]? = some u := by
  obtain ⟨bound, -⟩ := List.getElem?_eq_some_iff.mp found
  rw [List.getElem?_set] at known
  by_cases same : n = j
  · subst same
    simp only [if_true, bound] at known
    exact .inl ⟨rfl, (Option.some.inj known).symm⟩
  · simp only [same, if_false] at known
    exact .inr ⟨Ne.symm same, known⟩

theorem threadSelf {threads : List Thread} {n : Nat} {t : Thread} (found : threads[n]? = some t) (t' : Thread) :
    (threads.set n t')[n]? = some t' := by
  obtain ⟨bound, -⟩ := List.getElem?_eq_some_iff.mp found
  simp [bound]

theorem threadOther {threads : List Thread} {n j : Nat} (other : j ≠ n) (t' : Thread) :
    (threads.set n t')[j]? = threads[j]? :=
  List.getElem?_set_ne (Ne.symm other)

def Clear (t : Thread) : Prop := ∀ i ∈ t, i.closing = false

/- One thread has a part of the closing to do next, and nothing of it is to be found elsewhere. -/
def Closer (threads : List Thread) (d : Nat) (tail : Thread) : Prop :=
  ∀ j t, threads[j]? = some t → ∃ rest, t = (if j = d then tail else []) ++ rest ∧ Clear rest

section
variable {threads : List Thread} {n d : Nat} {i : Instruction} {rest m tail : Thread}

theorem clearAppend {t u : Thread} (first : Clear t) (second : Clear u) : Clear (t ++ u) :=
  List.forall_mem_append.mpr ⟨first, second⟩

theorem closerKept (closer : Closer threads d tail) (tailed : ∀ x ∈ tail, x.closing = true)
    (found : threads[n]? = some (i :: rest)) (other : i.closing = false) (clear : Clear m) :
    Closer (threads.set n (m ++ rest)) d tail := by
  intro j t known
  rcases threadCases found known with ⟨rfl, rfl⟩ | ⟨-, same⟩
  · obtain ⟨before, split, free⟩ := closer j _ found
    have none' : (if j = d then tail else []) = [] := by
      cases has : (if j = d then tail else []) with
      | nil => rfl
      | cons x xs =>
        rw [has] at split
        cases split
        have mem : i ∈ tail := by
          split at has
          · simp [has]
          · contradiction
        simp [tailed i mem] at other
    rw [none', List.nil_append] at split
    subst split
    exact ⟨m ++ rest, by rw [none', List.nil_append], clearAppend clear fun x mem => free x (by simp [mem])⟩
  · exact closer j t same

theorem closerMoves (closer : Closer threads d tail) (found : threads[n]? = some (i :: rest))
    (part : i.closing = true) (clear : Clear m) :
    n = d ∧ ∃ tail', tail = i :: tail' ∧
      (m = [] ∨ tail' = [] → Closer (threads.set n (m ++ rest)) d tail') := by
  obtain ⟨before, split, free⟩ := closer n _ found
  by_cases here : n = d
  · subst here
    simp only [if_true] at split
    cases tail with
    | nil =>
      have := free i (by rw [List.nil_append] at split; simp [← split])
      simp [part] at this
    | cons x tail' =>
      cases split
      refine ⟨rfl, tail', rfl, fun lone => ?_⟩
      intro j t known
      rcases threadCases found known with ⟨rfl, rfl⟩ | ⟨different, same⟩
      · rcases lone with rfl | rfl
        · exact ⟨before, by simp, free⟩
        · exact ⟨m ++ before, by simp, clearAppend clear free⟩
      · have := closer j t same
        simpa [different] using this
  · simp only [here, if_false, List.nil_append] at split
    subst split
    have := free i (by simp)
    simp [part] at this

theorem closerBegins (closer : Closer threads d []) (found : threads[n]? = some (i :: rest)) :
    Closer (threads.set n (tail ++ rest)) n tail := by
  have clear : ∀ (j : Nat) (t : Thread), threads[j]? = some t → Clear t := by
    intro j t known
    obtain ⟨u, rfl, free⟩ := closer j t known
    simpa using free
  intro j t known
  rcases threadCases found known with ⟨rfl, rfl⟩ | ⟨different, same⟩
  · exact ⟨rest, by simp, fun x mem => clear j _ found x (by simp [mem])⟩
  · exact ⟨t, by simp [different], clear j t same⟩

end

end TunnelRelay.Closing
