import Mathlib.Data.Nat.Count
import TunnelRelay.Profile

/-! Numbers that carry keys, and what is left of a list when only the positions of one key
are kept. A number becomes its place among those of its key. -/
namespace TunnelRelay

abbrev Labels := Nat → ProfileKey

namespace Labels

/- How many numbers below this one carry the key. -/
def place (labels : Labels) (k : ProfileKey) (n : Nat) : Nat := Nat.count (labels · = k) n

def pick (labels : Labels) (k : ProfileKey) : List α → List α
  | [] => []
  | x :: l =>
      let rest := pick (fun n => labels (n + 1)) k l
      if labels 0 = k then x :: rest else rest

variable {labels other : Labels} {k : ProfileKey}

theorem placeSucc (labels : Labels) (k : ProfileKey) (n : Nat) :
    labels.place k (n + 1) = labels.place k n + if labels n = k then 1 else 0 :=
  Nat.count_succ _ n

theorem placeOwn {n : Nat} (own : labels n = k) : labels.place k (n + 1) = labels.place k n + 1 := by
  rw [placeSucc, if_pos own]

theorem placeOther {n : Nat} (apart : labels n ≠ k) : labels.place k (n + 1) = labels.place k n := by
  rw [placeSucc, if_neg apart, Nat.add_zero]

theorem placeInjective {m n : Nat} (left : labels m = k) (right : labels n = k) :
    labels.place k m = labels.place k n ↔ m = n :=
  ⟨Nat.count_injective left right, fun same => same ▸ rfl⟩

theorem placeBelow {m n : Nat} (own : labels m = k) : labels.place k m < labels.place k n ↔ m < n :=
  ⟨Nat.lt_of_count_lt_count, Nat.count_strict_mono own⟩

theorem placeAgree {n : Nat} (agree : ∀ m < n, labels m = other m) : labels.place k n = other.place k n := by
  induction n with
  | zero => rfl
  | succ n ih =>
    rw [placeSucc, placeSucc, ih fun m below => agree m (by omega), agree n (Nat.lt_succ_self n)]

theorem placeOnto {i n : Nat} (below : i < labels.place k n) : ∃ m < n, labels m = k ∧ labels.place k m = i := by
  induction n with
  | zero => exact absurd below (Nat.not_lt_zero i)
  | succ n ih =>
    by_cases deeper : i < labels.place k n
    · obtain ⟨m, lower, found⟩ := ih deeper
      exact ⟨m, Nat.lt_succ_of_lt lower, found⟩
    · by_cases own : labels n = k
      · rw [placeOwn own] at below
        exact ⟨n, Nat.lt_succ_self n, own, by omega⟩
      · exact absurd (placeOther own ▸ below) deeper

theorem placeMatched {n n' : Nat} (same : other.place k n' = labels.place k n) :
    ∃ f : Nat → Nat, ∀ m < n, labels m = k → f m < n' ∧ other (f m) = k ∧ other.place k (f m) = labels.place k m := by
  have each (m : Nat) : ∃ m', m < n → labels m = k → m' < n' ∧ other m' = k ∧ other.place k m' = labels.place k m := by
    by_cases own : m < n ∧ labels m = k
    · obtain ⟨m', matched⟩ := placeOnto (same ▸ (placeBelow own.2).mpr own.1)
      exact ⟨m', fun _ _ => matched⟩
    · exact ⟨m, fun below label => absurd ⟨below, label⟩ own⟩
  choose f matched using each
  exact ⟨f, matched⟩

theorem placeShift (labels : Labels) (k : ProfileKey) (n : Nat) :
    labels.place k (n + 1) = place (fun m => labels (m + 1)) k n + if labels 0 = k then 1 else 0 :=
  Nat.count_succ' _ n

variable {l : List α}

theorem pickAt {i : Nat} (own : labels i = k) (l : List α) : (labels.pick k l)[labels.place k i]? = l[i]? := by
  induction l generalizing labels i with
  | nil => rfl
  | cons x l ih =>
    cases i with
    | zero => simp [pick, place, own]
    | succ i =>
      have rest := @ih (fun n => labels (n + 1)) i own
      rw [placeShift]
      by_cases first : labels 0 = k <;> simpa [pick, first] using rest

theorem pickLength (labels : Labels) (k : ProfileKey) (l : List α) :
    (labels.pick k l).length = labels.place k l.length := by
  induction l generalizing labels with
  | nil => rfl
  | cons x l ih =>
    rw [List.length_cons, placeShift, ← ih]
    by_cases first : labels 0 = k <;> simp [pick, first]

theorem pickAppend (labels : Labels) (k : ProfileKey) (l : List α) (x : α) :
    labels.pick k (l ++ [x]) = labels.pick k l ++ if labels l.length = k then [x] else [] := by
  induction l generalizing labels with
  | nil => simp [pick]
  | cons y l ih =>
    by_cases first : labels 0 = k <;> simp [pick, first, ih]

theorem pickSetOwn {i : Nat} (own : labels i = k) (l : List α) (x : α) :
    labels.pick k (l.set i x) = (labels.pick k l).set (labels.place k i) x := by
  induction l generalizing labels i with
  | nil => rfl
  | cons y l ih =>
    cases i with
    | zero => simp [pick, place, own]
    | succ i =>
      have rest := @ih (fun n => labels (n + 1)) i own
      rw [placeShift]
      by_cases first : labels 0 = k <;> simpa [pick, first] using rest

theorem pickSetOther {i : Nat} (apart : labels i ≠ k) (l : List α) (x : α) :
    labels.pick k (l.set i x) = labels.pick k l := by
  induction l generalizing labels i with
  | nil => rfl
  | cons y l ih =>
    cases i with
    | zero => simp [pick, apart]
    | succ i =>
      have rest := @ih (fun n => labels (n + 1)) i apart
      by_cases first : labels 0 = k <;> simpa [pick, first] using rest

theorem pickAgree (agree : ∀ n < l.length, labels n = other n) : labels.pick k l = other.pick k l := by
  induction l generalizing labels other with
  | nil => rfl
  | cons x l ih =>
    have rest := @ih (fun n => labels (n + 1)) (fun n => other (n + 1))
      fun n below => agree (n + 1) (Nat.succ_lt_succ below)
    simp only [pick, agree 0 (Nat.zero_lt_succ _), rest]

theorem pickCame {x : α} (mem : x ∈ labels.pick k l) : ∃ i : Nat, labels i = k ∧ l[i]? = some x := by
  induction l generalizing labels with
  | nil => contradiction
  | cons y l ih =>
    have later (deeper : x ∈ pick (fun n => labels (n + 1)) k l) :
        ∃ i : Nat, labels i = k ∧ (y :: l)[i]? = some x := by
      obtain ⟨i, own, at'⟩ := ih deeper
      exact ⟨i + 1, own, at'⟩
    by_cases first : labels 0 = k
    · simp only [pick, if_pos first, List.mem_cons] at mem
      rcases mem with rfl | deeper
      · exact ⟨0, first, rfl⟩
      · exact later deeper
    · simp only [pick, if_neg first] at mem
      exact later mem

theorem pickPresent {x : α} {i : Nat} (own : labels i = k) (at' : l[i]? = some x) : x ∈ labels.pick k l :=
  List.mem_of_getElem? ((pickAt own l).trans at')

theorem anyPick {f : α → β} {p : β → Bool} {q : α → Bool}
    (own : ∀ (i : Nat) x, l[i]? = some x → labels i = k → p (f x) = q x)
    (all : ∀ (i : Nat) x, l[i]? = some x → q x = true → labels i = k) :
    ((labels.pick k l).map f).any p = l.any q := by
  rw [Bool.eq_iff_iff, List.any_map, List.any_eq_true, List.any_eq_true]
  constructor
  · rintro ⟨x, mem, holds⟩
    obtain ⟨i, here, at'⟩ := pickCame mem
    exact ⟨x, List.mem_of_getElem? at', (own i x at' here).symm.trans holds⟩
  · rintro ⟨x, mem, holds⟩
    obtain ⟨i, at'⟩ := List.getElem?_of_mem mem
    have here := all i x at' holds
    exact ⟨x, pickPresent here at', (own i x at' here).trans holds⟩

theorem anyFilter {m : α → Bool} {f : α → β} {p : β → Bool} {q : α → Bool}
    (own : ∀ x ∈ l, m x = true → p (f x) = q x) (all : ∀ x ∈ l, q x = true → m x = true) :
    ((l.filter m).map f).any p = l.any q := by
  rw [Bool.eq_iff_iff, List.any_map, List.any_eq_true, List.any_eq_true]
  constructor
  · rintro ⟨x, mem, holds⟩
    obtain ⟨present, here⟩ := List.mem_filter.mp mem
    exact ⟨x, present, (own x present here).symm.trans holds⟩
  · rintro ⟨x, present, holds⟩
    have here := all x present holds
    exact ⟨x, List.mem_filter.mpr ⟨present, here⟩, (own x present here).trans holds⟩

end Labels
end TunnelRelay
