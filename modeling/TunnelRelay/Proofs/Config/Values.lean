import TunnelRelay.Proofs.Config.RoundTrip
import TunnelRelay.Proofs.Config.Targets

/-! Values of a document as settings: what a value stands for, if it stands for a setting at all, and
that it is read as just that. No number is cut to a narrower one, and a range needs both its ends. -/
namespace TunnelRelay.Config
open Toml

inductive PortsGiven (p : PortRange) : Value → Prop where
  | table {entries : List (String × Value)} (first : entries.lookup "first" = some (.integer p.first.toNat))
      (last : entries.lookup "last" = some (.integer p.last.toNat)) : PortsGiven p (.table entries)
  | array (rest : List Value) :
      PortsGiven p (.array (.integer p.first.toNat :: .integer p.last.toNat :: rest))

inductive HostGiven (host : String) : Value → Prop where
  | table {entries : List (String × Value)} (here : entries.lookup "host" = some (.string host)) :
      HostGiven host (.table entries)
  | array (rest : List Value) : HostGiven host (.array (.string host :: rest))

inductive TargetsGiven (t : Targets) : Value → Prop where
  | table {entries : List (String × Value)} (missing : ∀ key, entries.lookup key = none → t.entries.lookup key = none)
      (present : ∀ key v, entries.lookup key = some v → ∃ host, HostGiven host v ∧ t.entries.lookup key = some host) :
      TargetsGiven t (.table entries)

theorem naturalOk {bound : Nat} {wanted : Wanted} {v : Value} {n : Nat} :
    natural bound wanted v = .ok n ↔ v = .integer n ∧ n < bound := by
  constructor
  · intro read
    unfold natural at read
    split at read
    · rename_i i
      split at read
      · rename_i fits
        cases read
        simp only [Bool.and_eq_true, decide_eq_true_eq] at fits
        exact ⟨by rw [Int.toNat_of_nonneg fits.1], by omega⟩
      · contradiction
    · contradiction
  · rintro ⟨rfl, below⟩
    exact naturalRead below wanted

/- A word is read from its own number alone, as no other number below the bound is cut to it. -/
theorem wordOk {α : Type} {bound : Nat} {wanted : Wanted} {ofNat : Nat → α} {toNat : α → Nat}
    (small : ∀ a, toNat a < bound) (back : ∀ a, ofNat (toNat a) = a) (kept : ∀ n, n < bound → toNat (ofNat n) = n)
    {v : Value} {a : α} :
    (natural bound wanted v).map ofNat = .ok a ↔ v = .integer (toNat a) := by
  rw [mapOk]
  constructor
  · rintro ⟨n, read, rfl⟩
    obtain ⟨rfl, below⟩ := naturalOk.mp read
    rw [kept n below]
  · rintro rfl
    exact ⟨toNat a, naturalOk.mpr ⟨rfl, small a⟩, back a⟩

theorem u16Ok {v : Value} {n : UInt16} : u16 v = .ok n ↔ v = .integer n.toNat :=
  wordOk UInt16.toNat_lt (fun _ => UInt16.ofNat_toNat) fun _ below => UInt16.toNat_ofNat_of_lt' below

theorem u32Ok {v : Value} {n : UInt32} : u32 v = .ok n ↔ v = .integer n.toNat :=
  wordOk UInt32.toNat_lt (fun _ => UInt32.ofNat_toNat) fun _ below => UInt32.toNat_ofNat_of_lt' below

theorem u64Ok {v : Value} {n : UInt64} : u64 v = .ok n ↔ v = .integer n.toNat :=
  wordOk UInt64.toNat_lt (fun _ => UInt64.ofNat_toNat) fun _ below => UInt64.toNat_ofNat_of_lt' below

theorem usizeOk {v : Value} {n : UInt64} : usize v = .ok n ↔ v = .integer n.toNat :=
  wordOk UInt64.toNat_lt (fun _ => UInt64.ofNat_toNat) fun _ below => UInt64.toNat_ofNat_of_lt' below

theorem timeoutOk {v : Value} {d : Duration} :
    (u64 v).map Duration.ofSecs = .ok d ↔ d.nanos = 0 ∧ v = .integer d.secs.toNat := by
  rw [mapOk]
  constructor
  · rintro ⟨secs, read, rfl⟩
    exact ⟨rfl, u64Ok.mp read⟩
  · obtain ⟨secs, nanos⟩ := d
    rintro ⟨rfl, same⟩
    exact ⟨secs, u64Ok.mpr same, rfl⟩

theorem booleanOk {v : Value} {b : Bool} : boolean v = .ok b ↔ v = .boolean b := by
  cases v <;> simp [boolean, wrong]

theorem stringOk {v : Value} {s : String} : string v = .ok s ↔ v = .string s := by
  cases v <;> simp [string, wrong]

theorem requiredOk {α : Type} {name : String} {x : Option α} {a : α} : required name x = .ok a ↔ x = some a := by
  cases x <;> simp [required]

theorem elementOk {α : Type} {items : List Value} {index : Nat} {wanted : Wanted} {decode : Decoder α} {a : α} :
    element items index wanted decode = .ok a ↔ ∃ v, items[index]? = some v ∧ decode v = .ok a := by
  unfold element
  cases items[index]? <;> simp

theorem elementFirst {α : Type} (v : Value) (rest : List Value) (wanted : Wanted) (decode : Decoder α) :
    element (v :: rest) 0 wanted decode = decode v := rfl

theorem elementSecond {α : Type} (v w : Value) (rest : List Value) (wanted : Wanted) (decode : Decoder α) :
    element (v :: w :: rest) 1 wanted decode = decode w := rfl

theorem firstSets : Sets PortsDraft.entry "first" (fun v => (u16 v).map some) PortsDraft.first where
  here d v d' done := by
    obtain ⟨n, read, rfl⟩ := buildOk done
    exact mapOk.mpr ⟨n, read, rfl⟩
  elsewhere d k v d' other done := by
    rw [PortsDraft.entry, if_neg other] at done
    split at done
    · obtain ⟨n, -, rfl⟩ := buildOk done
      rfl
    · cases done
      rfl

theorem lastSets : Sets PortsDraft.entry "last" (fun v => (u16 v).map some) PortsDraft.last where
  here d v d' done := by
    obtain ⟨n, read, rfl⟩ := buildOk done
    exact mapOk.mpr ⟨n, read, rfl⟩
  elsewhere d k v d' other done := by
    unfold PortsDraft.entry at done
    rw [if_neg other] at done
    split at done
    · obtain ⟨n, -, rfl⟩ := buildOk done
      rfl
    · cases done
      rfl

theorem portsReads (d : PortsDraft) (k : String) (v : Value) :
    (∃ d', d.entry (k, v) = .ok d') ↔ (k = "first" ∨ k = "last" → ∃ n, u16 v = .ok n) := by
  unfold PortsDraft.entry
  dsimp only
  split
  · rename_i key
    simp only [buildReads, key, true_or, forall_const]
  split
  · rename_i key
    simp only [buildReads, key, or_true, forall_const]
  · rename_i first last
    simp [first, last]

theorem portsTable {entries : Entries} (apart : (entries.map Prod.fst).Nodup) {p : PortRange} :
    portRange (.table entries) = .ok p ↔ PortsGiven p (.table entries) := by
  constructor
  · intro read
    obtain ⟨d, done, read⟩ := bindOk.mp read
    obtain ⟨first, found, read⟩ := bindOk.mp read
    obtain ⟨last, found', same⟩ := bindOk.mp read
    cases same
    obtain ⟨a, present, number⟩ := (setsSome firstSets apart rfl done).mp (requiredOk.mp found)
    obtain ⟨b, present', number'⟩ := (setsSome lastSets apart rfl done).mp (requiredOk.mp found')
    exact .table (u16Ok.mp number ▸ present) (u16Ok.mp number' ▸ present')
  · rintro (⟨first, last⟩ | _)
    have reads : ∃ d, entries.foldlM PortsDraft.entry {} = .ok d := by
      refine (lookupsReads portsReads apart).mpr fun k v found key => ?_
      rcases key with rfl | rfl
      · exact ⟨p.first, u16Ok.mpr (Option.some.inj (found.symm.trans first))⟩
      · exact ⟨p.last, u16Ok.mpr (Option.some.inj (found.symm.trans last))⟩
    obtain ⟨d, done⟩ := reads
    have low := (setsSome firstSets apart rfl done).mpr ⟨_, first, u16Ok.mpr rfl⟩
    have high := (setsSome lastSets apart rfl done).mpr ⟨_, last, u16Ok.mpr rfl⟩
    simp [portRange, done, low, high, required, bind, Except.bind, pure, Except.pure]

theorem portsArray {items : List Value} {p : PortRange} :
    portRange (.array items) = .ok p ↔ PortsGiven p (.array items) := by
  constructor
  · intro read
    obtain ⟨first, found, read⟩ := bindOk.mp read
    obtain ⟨last, found', same⟩ := bindOk.mp read
    cases same
    obtain ⟨a, at0, number⟩ := elementOk.mp found
    obtain ⟨b, at1, number'⟩ := elementOk.mp found'
    obtain ⟨rest, rfl⟩ : ∃ rest, items = a :: b :: rest := by
      cases items with
      | nil => contradiction
      | cons _ items => cases items with
        | nil => contradiction
        | cons _ rest =>
          cases at0
          cases at1
          exact ⟨rest, rfl⟩
    rw [u16Ok.mp number, u16Ok.mp number']
    exact .array rest
  · rintro (_ | ⟨rest⟩)
    have low := elementFirst (.integer p.first.toNat) (.integer p.last.toNat :: rest) (.record "PortRange" 2) u16
    have high := elementSecond (.integer p.first.toNat) (.integer p.last.toNat) rest (.record "PortRange" 2) u16
    exact bindOk.mpr ⟨p.first, low.trans (u16Ok.mpr rfl), bindOk.mpr ⟨p.last, high.trans (u16Ok.mpr rfl), rfl⟩⟩

theorem portRangeOk {v : Value} (regular : v.Regular) {p : PortRange} : portRange v = .ok p ↔ PortsGiven p v := by
  cases regular with
  | table apart all => exact portsTable apart
  | array all => exact portsArray
  | _ => exact ⟨nofun, nofun⟩

theorem hostSets : Sets hostEntry "host" (fun v => (string v).map some) id where
  here d v d' done := done
  elsewhere d k v d' other done := by
    rw [hostEntry, if_neg other] at done
    cases done
    rfl

theorem hostReads (d : Option String) (k : String) (v : Value) :
    (∃ d', hostEntry d (k, v) = .ok d') ↔ (k = "host" → ∃ s, string v = .ok s) := by
  unfold hostEntry
  dsimp only
  split
  · rename_i key
    simp only [mapReads, key, forall_const]
  · rename_i key
    simp [key]

theorem hostTable {entries : Entries} (apart : (entries.map Prod.fst).Nodup) {text : String} :
    host (.table entries) = .ok text ↔ HostGiven text (.table entries) := by
  constructor
  · intro read
    obtain ⟨d, done, found⟩ := bindOk.mp read
    obtain ⟨v, present, reads⟩ := (setsSome hostSets apart rfl done).mp (requiredOk.mp found)
    exact .table (stringOk.mp reads ▸ present)
  · rintro (⟨here⟩ | _)
    have reads : ∃ d, entries.foldlM hostEntry none = .ok d := by
      refine (lookupsReads hostReads apart).mpr fun k v found key => ⟨text, stringOk.mpr ?_⟩
      exact Option.some.inj (found.symm.trans (key ▸ here))
    obtain ⟨d, done⟩ := reads
    have found := (setsSome hostSets apart rfl done).mpr ⟨_, here, rfl⟩
    exact bindOk.mpr ⟨d, done, requiredOk.mpr found⟩

theorem hostArray {items : List Value} {text : String} :
    host (.array items) = .ok text ↔ HostGiven text (.array items) := by
  constructor
  · intro read
    obtain ⟨v, first, reads⟩ := elementOk.mp read
    cases items with
    | nil => contradiction
    | cons w rest =>
      cases first
      rw [stringOk.mp reads]
      exact .array rest
  · rintro (_ | ⟨rest⟩)
    exact elementFirst (.string text) rest (.record "DirectTarget" 1) string

theorem hostOk {v : Value} (regular : v.Regular) {text : String} : host v = .ok text ↔ HostGiven text v := by
  cases regular with
  | table apart all => exact hostTable apart
  | array all => exact hostArray
  | _ => exact ⟨nofun, nofun⟩

theorem targetSets (key : String) :
    Sets targetEntry key (fun v => (host v).map some) fun t : Targets => t.entries.lookup key where
  here t v t' done := by
    obtain ⟨text, read, rfl⟩ := mapOk.mp done
    rw [Targets.insertLookup, if_pos rfl]
    exact mapOk.mpr ⟨text, read, rfl⟩
  elsewhere t k v t' other done := by
    obtain ⟨text, read, rfl⟩ := mapOk.mp done
    rw [Targets.insertLookup, if_neg (Ne.symm other)]

theorem targetReads (t : Targets) (k : String) (v : Value) :
    (∃ t', targetEntry t (k, v) = .ok t') ↔ ∃ text, host v = .ok text :=
  mapReads

theorem targetsOk {v : Value} (regular : v.Regular) {t : Targets} : targets v = .ok t ↔ TargetsGiven t v := by
  cases regular with
  | table apart all =>
    rename_i entries
    have hosts {key : String} {w : Value} (found : entries.lookup key = some w) {text : String} :
        host w = .ok text ↔ HostGiven text w := hostOk (all _ ((lookupMember apart).mp found))
    have parts {t : Targets} (done : entries.foldlM targetEntry .empty = .ok t) : TargetsGiven t (.table entries) := by
      refine .table (fun key missing => (setsPart (targetSets key) apart done).1 missing) fun key w found => ?_
      obtain ⟨text, read, same⟩ := mapOk.mp ((setsPart (targetSets key) apart done).2 w found)
      exact ⟨text, (hosts found).mp read, same.symm⟩
    refine ⟨parts, fun given => ?_⟩
    cases given with
    | table missing present =>
      obtain ⟨u, done⟩ := (lookupsReads (c := .empty) targetReads apart).mpr fun k w found => by
        obtain ⟨text, given, -⟩ := present k w found
        exact ⟨text, (hosts found).mpr given⟩
      have same : u = t := Targets.lookupAlike fun key => by
        cases found : entries.lookup key with
        | none => rw [missing key found, (setsPart (targetSets key) apart done).1 found]; rfl
        | some w =>
          obtain ⟨text, given, here⟩ := present key w found
          rw [here]
          exact (setsSome (targetSets key) apart rfl done).mpr ⟨w, found, (hosts found).mpr given⟩
      exact same ▸ done
  | _ => exact ⟨nofun, nofun⟩

end TunnelRelay.Config
