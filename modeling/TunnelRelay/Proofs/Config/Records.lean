import TunnelRelay.Config.Decode
import TunnelRelay.Proofs.Toml.Regular

/-! Records that are read entry by entry from a table in which no key stands twice. A part of the
record is what the value under its key is read as, or stays what it was; and the whole is read just
if each value is. The order of the entries plays no part in either. -/
namespace TunnelRelay.Config
open Toml

theorem bindOk {ε α β : Type} {x : Except ε α} {f : α → Except ε β} {b : β} :
    (x >>= f) = .ok b ↔ ∃ a, x = .ok a ∧ f a = .ok b := by
  cases x <;> simp [bind, Except.bind]

theorem mapOk {ε α β : Type} {x : Except ε α} {f : α → β} {b : β} :
    x.map f = .ok b ↔ ∃ a, x = .ok a ∧ f a = b := by
  cases x <;> simp [Except.map]

theorem mapErrorOk {ε ε' α : Type} {x : Except ε α} {f : ε → ε'} {a : α} : x.mapError f = .ok a ↔ x = .ok a := by
  constructor <;> intro done <;> cases x <;> cases done <;> rfl

theorem mapErrorFails {ε ε' α : Type} {x : Except ε α} {f : ε → ε'} {e' : ε'} :
    x.mapError f = .error e' ↔ ∃ e, x = .error e ∧ e' = f e := by
  constructor
  · intro failed
    cases x with
    | ok a => cases failed
    | error e => exact ⟨e, rfl, (Except.error.inj failed).symm⟩
  · intro ⟨e, failed, same⟩
    rw [failed, same]
    rfl

theorem buildOk {ε α β : Type} {x : Except ε α} {f : α → β} {b : β} (done : (do return f (← x)) = Except.ok b) :
    ∃ a, x = .ok a ∧ f a = b := by
  obtain ⟨a, read, same⟩ := bindOk.mp done
  exact ⟨a, read, Except.ok.inj same⟩

theorem mapReads {ε α β : Type} {x : Except ε α} {f : α → β} : (∃ b, x.map f = .ok b) ↔ ∃ a, x = .ok a := by
  cases x <;> simp [Except.map]

theorem buildReads {ε α β : Type} {x : Except ε α} {f : α → β} :
    (∃ b, (do return f (← x)) = Except.ok b) ↔ ∃ a, x = .ok a := by
  cases x <;> simp [bind, Except.bind, pure, Except.pure]

theorem lookupMember {entries : List (String × α)} (apart : (entries.map Prod.fst).Nodup) {key : String} {a : α} :
    entries.lookup key = some a ↔ (key, a) ∈ entries := by
  induction entries with
  | nil => simp
  | cons e rest ih =>
    obtain ⟨k, first⟩ := e
    obtain ⟨fresh, apart⟩ := List.nodup_cons.mp apart
    by_cases same : key = k
    · subst same
      rw [List.lookup_cons, beq_self_eq_true, List.mem_cons]
      constructor
      · rintro ⟨⟩
        exact .inl rfl
      · rintro (here | later)
        · cases here
          rfl
        · exact absurd (List.mem_map_of_mem (f := Prod.fst) later) fresh
    · rw [List.lookup_cons, beq_false_of_ne same, List.mem_cons]
      simp [same, ih apart]

variable {γ α : Type} {step : γ → String × Value → Except DataError γ}

/- The value under one key alone sets a part of the record, to what it is read as. -/
structure Sets (step : γ → String × Value → Except DataError γ) (key : String) (read : Decoder α) (part : γ → α) :
    Prop where
  here : ∀ c v c', step c (key, v) = .ok c' → read v = .ok (part c')
  elsewhere : ∀ c k v c', k ≠ key → step c (k, v) = .ok c' → part c' = part c

variable {key : String} {read : Decoder α} {part : γ → α} {entries : Entries} {c c' : γ}

theorem setsUnread (sets : Sets step key read part) (unread : key ∉ entries.map Prod.fst)
    (done : entries.foldlM step c = .ok c') : part c' = part c := by
  induction entries generalizing c with
  | nil =>
    cases done
    rfl
  | cons e rest ih =>
    obtain ⟨k, v⟩ := e
    rw [List.foldlM_cons] at done
    obtain ⟨next, now, later⟩ := bindOk.mp done
    have other : k ≠ key := Ne.symm (List.ne_of_not_mem_cons unread)
    rw [ih (List.not_mem_of_not_mem_cons unread) later, sets.elsewhere c k v next other now]

theorem setsPart (sets : Sets step key read part) (apart : (entries.map Prod.fst).Nodup)
    (done : entries.foldlM step c = .ok c') :
    (entries.lookup key = none → part c' = part c) ∧ ∀ v, entries.lookup key = some v → read v = .ok (part c') := by
  induction entries generalizing c with
  | nil =>
    cases done
    exact ⟨fun _ => rfl, nofun⟩
  | cons e rest ih =>
    obtain ⟨k, v⟩ := e
    obtain ⟨fresh, apart⟩ := List.nodup_cons.mp apart
    rw [List.foldlM_cons] at done
    obtain ⟨next, now, later⟩ := bindOk.mp done
    by_cases same : key = k
    · subst same
      have kept := setsUnread sets fresh later
      simp only [List.lookup_cons, beq_self_eq_true, Option.some.injEq]
      refine ⟨nofun, ?_⟩
      rintro w rfl
      rw [kept]
      exact sets.here c v next now
    · obtain ⟨absent, present⟩ := ih apart later
      simp only [List.lookup_cons, beq_false_of_ne same]
      refine ⟨fun none => ?_, present⟩
      rw [absent none, sets.elsewhere c k v next (Ne.symm same) now]

theorem setsSome {part : γ → Option α} (sets : Sets step key (fun v => (read v).map some) part)
    (apart : (entries.map Prod.fst).Nodup) (unset : part c = none) (done : entries.foldlM step c = .ok c') {a : α} :
    part c' = some a ↔ ∃ v, entries.lookup key = some v ∧ read v = .ok a := by
  obtain ⟨missing, present⟩ := setsPart sets apart done
  cases found : entries.lookup key with
  | none => simp [missing found, unset]
  | some v =>
    obtain ⟨b, reads, same⟩ := mapOk.mp (present v found)
    simp [← same, reads]

theorem foldReads {readable : String → Value → Prop}
    (reads : ∀ c k v, (∃ c', step c (k, v) = .ok c') ↔ readable k v) :
    (∃ c', entries.foldlM step c = .ok c') ↔ ∀ e ∈ entries, readable e.1 e.2 := by
  induction entries generalizing c with
  | nil => simp [pure, Except.pure]
  | cons e rest ih =>
    rw [List.foldlM_cons, List.forall_mem_cons, ← reads c e.1 e.2]
    constructor
    · rintro ⟨c', done⟩
      obtain ⟨next, now, later⟩ := bindOk.mp done
      exact ⟨⟨next, now⟩, ih.mp ⟨c', later⟩⟩
    · rintro ⟨⟨next, now⟩, rest⟩
      obtain ⟨c', later⟩ := (@ih next).mpr rest
      exact ⟨c', bindOk.mpr ⟨next, now, later⟩⟩

theorem lookupsReads {readable : String → Value → Prop}
    (reads : ∀ c k v, (∃ c', step c (k, v) = .ok c') ↔ readable k v) (apart : (entries.map Prod.fst).Nodup) :
    (∃ c', entries.foldlM step c = .ok c') ↔ ∀ k v, entries.lookup k = some v → readable k v := by
  rw [foldReads reads]
  constructor
  · exact fun all k v found => all (k, v) ((lookupMember apart).mp found)
  · exact fun all e mem => all e.1 e.2 ((lookupMember apart).mpr mem)

end TunnelRelay.Config
