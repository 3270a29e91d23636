import TunnelRelay.Proofs.Config.Records

/-! Direct targets as a table: what a key leads to after an entry was put in, and that the hosts of
all keys tell the whole. -/
namespace TunnelRelay.Targets
open Config

theorem insertEntryLookup (key host other : String) (entries : List (String × String)) :
    (insertEntry key host entries).lookup other = if other = key then some host else entries.lookup other := by
  have put (rest : List (String × String)) :
      ((key, host) :: rest).lookup other = if other = key then some host else rest.lookup other := by
    rw [List.lookup_cons]
    split <;> simp_all
  induction entries with
  | nil => exact put []
  | cons head rest ih =>
    obtain ⟨k, h⟩ := head
    unfold insertEntry
    split
    · exact put _
    split
    · rename_i after
      by_cases here : other = k
      · subst here
        have apart : other ≠ key := fun same => String.lt_irrefl key (by rwa [same] at after)
        simp [apart]
      · rw [List.lookup_cons, List.lookup_cons, beq_false_of_ne here, ih]
    · rename_i notBefore notAfter
      have same : key = k := String.le_antisymm (String.not_lt.mp notAfter) (String.not_lt.mp notBefore)
      rw [put, ← same, List.lookup_cons]
      split
      · rfl
      · rename_i apart
        rw [beq_false_of_ne apart]

theorem insertLookup (t : Targets) (key host other : String) :
    (t.insert key host).entries.lookup other = if other = key then some host else t.entries.lookup other :=
  insertEntryLookup key host other t.entries

theorem keysApart (t : Targets) : (t.entries.map Prod.fst).Nodup :=
  List.pairwise_map.mpr (t.ordered.imp String.ne_of_lt)

theorem entriesApart (t : Targets) : t.entries.Nodup :=
  List.Pairwise.of_map Prod.fst (fun _ _ other same => other (congrArg Prod.fst same)) t.keysApart

theorem lookupAlike {t u : Targets} (same : ∀ key, t.entries.lookup key = u.entries.lookup key) : t = u := by
  have members : t.entries.Perm u.entries :=
    (List.perm_ext_iff_of_nodup t.entriesApart u.entriesApart).mpr fun e => by
      rw [← lookupMember t.keysApart, ← lookupMember u.keysApart, same]
  have alike := members.eq_of_pairwise (fun a b _ _ first second => absurd second (String.lt_asymm first))
    t.ordered u.ordered
  cases t
  cases u
  cases alike
  rfl

end TunnelRelay.Targets
