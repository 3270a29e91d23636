import TunnelRelay.Profile

/-! The identities of the capabilities that come with the program. Equal identities mean
equal capabilities; and the identity of an allow list tells its ports, whatever their
order and repetitions were. So equal keys of profiles mean that they allow the same. -/
namespace TunnelRelay

def keepFirst (p : UInt16) (rest : List UInt16) : List UInt16 := if rest.head? = some p then rest else p :: rest

theorem sortedKept (ports : List UInt16) :
    sortedPorts ports = (ports.mergeSort fun a b => a ≤ b).foldr keepFirst [] := rfl

theorem memKept {p : UInt16} {ports : List UInt16} : p ∈ ports.foldr keepFirst [] ↔ p ∈ ports := by
  induction ports with
  | nil => rfl
  | cons q rest ih =>
    rw [List.foldr_cons, keepFirst, List.mem_cons]
    split
    · rename_i again
      have there : q ∈ rest.foldr keepFirst [] := List.mem_of_mem_head? again
      constructor
      · exact fun mem => .inr (ih.mp mem)
      · rintro (rfl | mem)
        · exact there
        · exact ih.mpr mem
    · rw [List.mem_cons, ih]

theorem keptAscends {ports : List UInt16} (sorted : ports.Pairwise (· ≤ ·)) :
    (ports.foldr keepFirst []).Pairwise (· < ·) := by
  induction ports with
  | nil => exact .nil
  | cons q rest ih =>
    obtain ⟨least, sorted⟩ := List.pairwise_cons.mp sorted
    have ascends := ih sorted
    rw [List.foldr_cons, keepFirst]
    split
    · exact ascends
    · rename_i new
      refine List.pairwise_cons.mpr ⟨fun p mem => ?_, ascends⟩
      cases kept : rest.foldr keepFirst [] with
      | nil => simp [kept] at mem
      | cons head tail =>
        rw [kept] at mem new ascends
        have low : q ≤ head := least head (memKept.mp (by simp [kept]))
        have different : q ≠ head := fun same => new (by simp [same])
        have first : q < head := UInt16.lt_of_le_of_ne low different
        rcases List.mem_cons.mp mem with rfl | later
        · exact first
        · exact UInt16.lt_trans first ((List.pairwise_cons.mp ascends).1 p later)

theorem memSorted {p : UInt16} {ports : List UInt16} : p ∈ sortedPorts ports ↔ p ∈ ports := by
  rw [sortedKept, memKept, List.mem_mergeSort]

theorem sortedAscends (ports : List UInt16) : (sortedPorts ports).Pairwise (· < ·) := by
  refine keptAscends ?_
  have sorted := @List.pairwise_mergeSort UInt16 (fun a b => a ≤ b)
    (fun a b c first second => by simpa using UInt16.le_trans (by simpa using first) (by simpa using second))
    (fun a b => by simpa using UInt16.le_total a b) ports
  simpa using sorted

theorem sortedSame {a b : List UInt16} : sortedPorts a = sortedPorts b ↔ ∀ p, p ∈ a ↔ p ∈ b := by
  constructor
  · intro same p
    rw [← memSorted, same, memSorted]
  · intro same
    have once (ports : List UInt16) : (sortedPorts ports).Nodup := (sortedAscends ports).imp UInt16.ne_of_lt
    have members : (sortedPorts a).Perm (sortedPorts b) :=
      (List.perm_ext_iff_of_nodup (once a) (once b)).mpr fun p => by rw [memSorted, memSorted, same p]
    exact members.eq_of_pairwise (fun p q _ _ first second => absurd second (UInt16.lt_asymm first))
      (sortedAscends a) (sortedAscends b)

theorem numeral (n : Nat) : (toString n).toList = Text.decimal n := by
  simp [toString, Nat.repr, Text.decimal]

theorem numeralCommas (n : Nat) : ',' ∉ (toString n).toList := by
  intro mem
  rw [numeral] at mem
  exact absurd (Nat.isDigit_of_mem_toDigits (by decide) (by decide) mem) (by decide)

def numerals (l : List Nat) : List (List Char) := l.map fun n => (toString n).toList

theorem numeralsApart {l : List Nat} (present : l ≠ []) :
    ([','].intercalate (numerals l)).splitOn ',' = numerals l := by
  refine List.splitOn_intercalate ',' (fun part mem => ?_) (by simpa [numerals] using present)
  obtain ⟨n, -, rfl⟩ := List.mem_map.mp mem
  exact numeralCommas n

theorem numeralsEmpty {l : List Nat} : [','].intercalate (numerals l) = [] ↔ l = [] := by
  constructor
  · intro nothing
    cases l with
    | nil => rfl
    | cons n rest =>
      have apart := numeralsApart (List.cons_ne_nil n rest)
      rw [nothing, List.splitOn_nil] at apart
      have first : [] = (toString n).toList := (List.cons.inj apart).1
      rw [numeral] at first
      exact absurd first.symm (Text.decimalNotEmpty n)
  · rintro rfl
    rfl

theorem numeralsJoined {a b : List Nat} (same : [','].intercalate (numerals a) = [','].intercalate (numerals b)) :
    a = b := by
  by_cases empty : a = []
  · rw [empty] at same ⊢
    exact (numeralsEmpty.mp (same.symm.trans (numeralsEmpty.mpr rfl))).symm
  · have present : b ≠ [] := fun none' => empty (numeralsEmpty.mp (same.trans (numeralsEmpty.mpr none')))
    have lists : numerals a = numerals b := by rw [← numeralsApart empty, same, numeralsApart present]
    refine (List.map_inj_right fun m n alike => ?_).mp lists
    rw [numeral, numeral] at alike
    exact Text.decimalInjective alike

theorem portsJoined (ports : List UInt16) :
    (",".intercalate (ports.map fun p => toString p.toNat)).toList =
      [','].intercalate (numerals (ports.map UInt16.toNat)) := by
  rw [String.toList_intercalate, numerals, List.map_map, List.map_map]
  rfl

theorem allowPortsId {a b : List UInt16} :
    (Policy.allowPorts a).id = (Policy.allowPorts b).id ↔ ∀ p, p ∈ a ↔ p ∈ b := by
  rw [← sortedSame]
  constructor
  · intro same
    have joined := congrArg String.toList ((String.append_right_inj _).mp same)
    rw [portsJoined, portsJoined] at joined
    exact (List.map_inj_right fun p q => UInt16.toNat_inj.mp).mp (numeralsJoined joined)
  · intro same
    simp only [Policy.allowPorts, same]

theorem allowAllId (ports : List UInt16) : (Policy.allowPorts ports).id ≠ Policy.allowAll.id := by
  intro same
  have chars := congrArg String.toList same
  simp [Policy.allowPorts, Policy.allowAll, String.toList_append] at chars

def Protocol.BuiltIn (p : Protocol) : Prop := p = .rdp ∨ p = .ssh

def Policy.BuiltIn (p : Policy) : Prop := p = .allowAll ∨ ∃ ports, p = .allowPorts ports

theorem Protocol.builtInSame {p q : Protocol} (first : p.BuiltIn) (second : q.BuiltIn) (same : p.id = q.id) :
    p = q := by
  rcases first with rfl | rfl <;> rcases second with rfl | rfl
  · rfl
  · exact absurd same (by decide)
  · exact absurd same (by decide)
  · rfl

theorem Policy.builtInSame {p q : Policy} (first : p.BuiltIn) (second : q.BuiltIn) (same : p.id = q.id) : p = q := by
  rcases first with rfl | ⟨a, rfl⟩ <;> rcases second with rfl | ⟨b, rfl⟩
  · rfl
  · exact absurd same.symm (allowAllId b)
  · exact absurd same (allowAllId a)
  · rw [allowPorts, allowPorts, sortedSame.mpr (allowPortsId.mp same)]

theorem allowPortsPermits {ports : List UInt16} {l : Locator} {port : UInt16} :
    (Policy.allowPorts ports).permits l port = true ↔ port ∈ ports := by
  rw [Policy.allowPorts, List.contains_iff_mem, memSorted]

theorem allowPortsVerdicts {a b : List UInt16} (l : Locator) :
    (∀ port, (Policy.allowPorts a).permits l port = (Policy.allowPorts b).permits l port) ↔ ∀ port, port ∈ a ↔ port ∈ b := by
  constructor
  · intro same port
    rw [← @allowPortsPermits a l, same port, allowPortsPermits]
  · intro same port
    rw [Bool.eq_iff_iff, allowPortsPermits, allowPortsPermits, same port]

/- Two allow lists have one identity exactly if they have the same ports, whatever their order and
repetitions are, and exactly if they give the same verdicts on any instance; and of the policies that
come with the program no other one has that identity. -/
theorem portsIdentified (a b : List UInt16) :
    ((Policy.allowPorts a).id = (Policy.allowPorts b).id ↔ ∀ port, port ∈ a ↔ port ∈ b) ∧
    (∀ l, (Policy.allowPorts a).id = (Policy.allowPorts b).id ↔
      ∀ port, (Policy.allowPorts a).permits l port = (Policy.allowPorts b).permits l port) ∧
    (Policy.allowPorts a).id ≠ Policy.allowAll.id ∧
    ∀ q : Policy, q.BuiltIn → (q.id = (Policy.allowPorts a).id ↔ q = .allowPorts a) := by
  refine ⟨allowPortsId, fun l => allowPortsId.trans (allowPortsVerdicts l).symm, allowAllId a, fun q comes => ?_⟩
  constructor
  · intro same
    exact Policy.builtInSame comes (.inr ⟨a, rfl⟩) same
  · intro same
    rw [same]

theorem portsIdentifiedReordered :
    (Policy.allowPorts [3389, 22]).id = (Policy.allowPorts [22, 3389, 22]).id ∧
      (Policy.allowPorts [22]).id ≠ (Policy.allowPorts [22, 3]).id ∧
      (Policy.allowPorts []).id ≠ (Policy.allowPorts [0]).id ∧
      (Policy.allowAll.BuiltIn ∧ Policy.allowAll ≠ .allowPorts []) := by
  have every (a b : List UInt16) := portsIdentified a b
  refine ⟨(every _ _).1.mpr (by simp [or_comm]), fun same => ?_, fun same => ?_, .inl rfl, fun same => ?_⟩
  · have more := ((every _ _).1.mp same 3).mpr (by simp)
    exact absurd more (by decide)
  · have more := ((every _ _).1.mp same 0).mpr (by simp)
    exact absurd more (by decide)
  · obtain ⟨-, -, apart, own⟩ := every [] []
    exact apart ((own _ (.inl rfl)).mpr same).symm

inductive Policy.Alike : Policy → Policy → Prop where
  | same (p : Policy) : Alike p p
  | reordered {a b : List UInt16} (ports : ∀ p, p ∈ a ↔ p ∈ b) : Alike (.allowPorts a) (.allowPorts b)

theorem Policy.alikeId {p q : Policy} (alike : p.Alike q) : p.id = q.id := by
  cases alike with
  | same => rfl
  | reordered ports => exact allowPortsId.mpr ports

namespace Profile

structure BuiltIn (p : Profile) : Prop where
  protocol : p.protocol.BuiltIn
  policy : p.policy.BuiltIn

structure SameAccess (p q : Profile) : Prop where
  instanceLocator : p.instanceLocator = q.instanceLocator
  port : p.port = q.port
  protocol : ∀ l port, p.protocol.permits l port = q.protocol.permits l port
  policy : ∀ l port, p.policy.permits l port = q.policy.permits l port
  admits : ∀ peer, p.policy.admits peer = q.policy.admits peer

structure Alike (p q : Profile) : Prop where
  instanceLocator : p.instanceLocator = q.instanceLocator
  port : p.port = q.port
  protocol : p.protocol = q.protocol
  policy : p.policy.Alike q.policy

theorem keyAccess {p q : Profile} (first : p.BuiltIn) (second : q.BuiltIn) (same : p.key = q.key) :
    p.SameAccess q := by
  simp only [key, ProfileKey.mk.injEq] at same
  obtain ⟨protocolId, policyId, instanceLocator, port⟩ := same
  have protocol : p.protocol = q.protocol := Protocol.builtInSame first.protocol second.protocol protocolId
  have policy : p.policy = q.policy := Policy.builtInSame first.policy second.policy policyId
  exact ⟨instanceLocator, port, by simp [protocol], by simp [policy], by simp [policy]⟩

theorem alikeKey {p q : Profile} (alike : p.Alike q) : p.key = q.key := by
  simp only [key, ProfileKey.mk.injEq]
  exact ⟨by rw [alike.protocol], Policy.alikeId alike.policy, alike.instanceLocator, alike.port⟩

end Profile

end TunnelRelay
