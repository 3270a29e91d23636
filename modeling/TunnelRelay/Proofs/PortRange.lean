import TunnelRelay.PortRange

/-! The ports of a range, and what is handed out of one: any port that is not zero and was
not tried yet may come next, whatever the random draws are, and none comes only when there is
none left. -/
namespace TunnelRelay.PortRange

variable {r : PortRange} {port : UInt16}

theorem containsBounds : r.contains port = true ↔ r.first.toNat ≤ port.toNat ∧ port.toNat ≤ r.last.toNat := by
  simp [contains, UInt16.le_iff_toNat_le]

theorem filledBounds : r.isEmpty = false ↔ r.first.toNat ≤ r.last.toNat := by
  simp [isEmpty, UInt16.le_iff_toNat_le]

theorem memPorts : port ∈ r.ports ↔ r.contains port = true := by
  rw [containsBounds, ports, List.mem_map]
  constructor
  · rintro ⟨i, small, rfl⟩
    have bound : r.last.toNat < UInt16.size := r.last.toNat_lt
    rw [List.mem_range] at small
    rw [UInt16.toNat_ofNat_of_lt' (by omega)]
    omega
  · rintro ⟨above, below⟩
    refine ⟨port.toNat - r.first.toNat, List.mem_range.mpr (by omega), ?_⟩
    rw [Nat.add_sub_cancel' above, UInt16.ofNat_toNat]

theorem sizeFilled (filled : r.isEmpty = false) : r.size = r.last.toNat + 1 - r.first.toNat := by
  have order := filledBounds.mp filled
  rw [size, filled, if_neg (by decide), UInt16.toNat_sub_of_le _ _ (UInt16.le_iff_toNat_le.mpr order)]
  omega

theorem portsApart : r.ports.Nodup := by
  have bound : r.last.toNat < UInt16.size := r.last.toNat_lt
  refine List.pairwise_map.mpr (List.pairwise_lt_range.imp_of_mem fun {i j} first second order same => ?_)
  rw [List.mem_range] at first second
  have numbers := congrArg UInt16.toNat same
  rw [UInt16.toNat_ofNat_of_lt' (by omega), UInt16.toNat_ofNat_of_lt' (by omega)] at numbers
  omega

theorem pickContained (filled : r.isEmpty = false) (random : Nat) : r.contains (r.pick random) = true := by
  have order := filledBounds.mp filled
  have bound : r.last.toNat < UInt16.size := r.last.toNat_lt
  have drawn : random % r.size < r.last.toNat + 1 - r.first.toNat := by
    rw [← sizeFilled filled]
    exact Nat.mod_lt _ (by rw [sizeFilled filled]; omega)
  rw [containsBounds, pick, UInt16.toNat_ofNat_of_lt' (by omega)]
  omega

theorem untriedIff {tried : List UInt16} : untried tried port = true ↔ port ≠ 0 ∧ port ∉ tried := by
  simp [untried]

section
variable {tried : List UInt16} {random : Nat → Nat}

theorem nextSome (chosen : r.next tried random = some port) :
    r.contains port = true ∧ port ≠ 0 ∧ port ∉ tried := by
  unfold next at chosen
  split at chosen
  · contradiction
  · rename_i filled
    split at chosen
    · rename_i drawn
      cases chosen
      obtain ⟨i, -, same⟩ := List.mem_map.mp (List.mem_of_find?_eq_some drawn)
      exact ⟨same ▸ pickContained (by simpa using filled) _, untriedIff.mp (List.find?_some drawn)⟩
    · exact ⟨memPorts.mp (List.mem_of_find?_eq_some chosen), untriedIff.mp (List.find?_some chosen)⟩

theorem nextNone (nothing : r.next tried random = none) (inside : r.contains port = true) (nonzero : port ≠ 0) :
    port ∈ tried := by
  unfold next at nothing
  split at nothing
  · rename_i empty
    have order := containsBounds.mp inside
    have filled : r.isEmpty = false := filledBounds.mpr (by omega)
    simp [filled] at empty
  · split at nothing
    · contradiction
    · have candidate := List.find?_eq_none.mp nothing _ (memPorts.mpr inside)
      rw [untriedIff, not_and] at candidate
      exact Decidable.of_not_not (candidate nonzero)

end

def left (r : PortRange) (tried : List UInt16) : List UInt16 := r.ports.filter (untried tried)

theorem memLeft {tried : List UInt16} : port ∈ r.left tried ↔ r.contains port = true ∧ port ≠ 0 ∧ port ∉ tried := by
  rw [left, List.mem_filter, memPorts, untriedIff]

theorem leftApart (tried : List UInt16) : (r.left tried).Nodup := portsApart.filter _

section
variable {tried : List UInt16} {random : Nat → Nat}

theorem nextLeft (chosen : r.next tried random = some port) : port ∈ r.left tried := memLeft.mpr (nextSome chosen)

theorem noneLeft : r.next tried random = none ↔ r.left tried = [] := by
  constructor
  · intro nothing
    apply List.eq_nil_iff_forall_not_mem.mpr
    intro port mem
    obtain ⟨inside, nonzero, fresh⟩ := memLeft.mp mem
    exact fresh (nextNone nothing inside nonzero)
  · intro empty
    cases chosen : r.next tried random with
    | none => rfl
    | some port =>
      have mem := nextLeft chosen
      rw [empty] at mem
      contradiction

theorem untriedMore (tried : List UInt16) (port other : UInt16) :
    untried (tried ++ [port]) other = (untried tried other && other != port) := by
  rw [Bool.eq_iff_iff, Bool.and_eq_true, untriedIff, untriedIff]
  simp [and_assoc]

theorem leftMore (tried : List UInt16) (port : UInt16) : r.left (tried ++ [port]) = (r.left tried).erase port := by
  rw [(leftApart tried).erase_eq_filter, left, left, List.filter_filter]
  apply List.filter_congr
  intro other _
  rw [untriedMore, Bool.and_comm]

theorem leftSplits (chosen : r.next tried random = some port) :
    (r.left tried).Perm (port :: r.left (tried ++ [port])) := by
  rw [leftMore]
  exact List.perm_cons_erase (nextLeft chosen)

end

/- The ports that come, from some turn on until none does, to a loop that excludes each of them.
Every turn has its own draws. -/
def handOut (r : PortRange) (source : Nat → Nat → Nat) (turn : Nat) (tried : List UInt16) : List UInt16 :=
  match _chosen : r.next tried (source turn) with
  | none => []
  | some port => port :: r.handOut source (turn + 1) (tried ++ [port])
termination_by (r.left tried).length
decreasing_by
  rw [(leftSplits _chosen).length_eq]
  exact Nat.lt_succ_self _

theorem handsOutLeft (source : Nat → Nat → Nat) (turn : Nat) (tried : List UInt16) :
    (r.handOut source turn tried).Perm (r.left tried) := by
  fun_induction handOut r source turn tried with
  | case1 turn tried nothing => rw [noneLeft.mp nothing]
  | case2 turn tried port chosen ih => exact (ih.cons port).trans (leftSplits chosen).symm

theorem leftNothing (source : Nat → Nat → Nat) (turn : Nat) (tried : List UInt16) :
    r.left (tried ++ r.handOut source turn tried) = [] := by
  apply List.eq_nil_iff_forall_not_mem.mpr
  intro port mem
  obtain ⟨inside, nonzero, fresh⟩ := memLeft.mp mem
  rw [List.mem_append, not_or] at fresh
  exact fresh.2 ((handsOutLeft source turn tried).mem_iff.mpr (memLeft.mpr ⟨inside, nonzero, fresh.1⟩))

/- Whatever was tried before and whatever is drawn: a port that comes is one of the range, not zero and not
tried; none comes exactly if there is no such port; and a loop that excludes each port as it comes gets all
of them, each once, and then none. -/
theorem everyPortOnce (r : PortRange) (tried : List UInt16) :
    (∀ random port, r.next tried random = some port → r.contains port = true ∧ port ≠ 0 ∧ port ∉ tried) ∧
    (∀ random, r.next tried random = none ↔ ∀ port, r.contains port = true → port ≠ 0 → port ∈ tried) ∧
    ∀ source turn,
      (r.handOut source turn tried).Nodup ∧
      (∀ port, port ∈ r.handOut source turn tried ↔ r.contains port = true ∧ port ≠ 0 ∧ port ∉ tried) ∧
      (r.handOut source turn tried).length = (r.left tried).length ∧
      ∀ random, r.next (tried ++ r.handOut source turn tried) random = none := by
  refine ⟨fun random port chosen => nextSome chosen, fun random => ?none, fun source turn => ?loop⟩
  case none =>
    constructor
    · intro nothing port inside nonzero
      exact nextNone nothing inside nonzero
    · intro all
      apply noneLeft.mpr
      apply List.eq_nil_iff_forall_not_mem.mpr
      intro port mem
      obtain ⟨inside, nonzero, fresh⟩ := memLeft.mp mem
      exact fresh (all port inside nonzero)
  case loop =>
    have all := @handsOutLeft r source turn tried
    exact ⟨all.nodup_iff.mpr (leftApart tried), fun port => all.mem_iff.trans memLeft, all.length_eq,
      fun random => noneLeft.mpr (leftNothing source turn tried)⟩

theorem everyPortOnceThird :
    let r : PortRange := ⟨0, 2⟩
    r.next [1] (fun i => i) = some 2 ∧ (r.contains 2 = true ∧ (2 : UInt16) ≠ 0 ∧ (2 : UInt16) ∉ [1]) ∧
      r.handOut (fun turn i => turn + i) 0 [1] = [2] := by
  intro r
  obtain ⟨sound, -, loop⟩ := everyPortOnce r [1]
  obtain ⟨-, all, count, -⟩ := loop (fun turn i => turn + i) 0
  have chosen : r.next [1] (fun i => i) = some 2 := by decide
  have left : r.left [1] = [2] := by decide
  have own := sound _ _ chosen
  obtain ⟨port, alone⟩ := List.length_eq_one_iff.mp (count.trans (congrArg List.length left))
  have came := (all 2).mpr own
  rw [alone, List.mem_singleton] at came
  exact ⟨chosen, own, by rw [alone, ← came]⟩

end TunnelRelay.PortRange
