import TunnelRelay.PortSearch
import TunnelRelay.Proofs.PortRange

/-! Where the search for a port looks, and how it ends. All endpoints that it asks for have
one address, the preferred one or the default, and it asks for none if that is forbidden.
The binder is asked for the preferred port and then for ports of the range, none twice, as
long as it refuses them over the port and the budget and the range last; what it answers at
last is the outcome. A cancellation cuts the search short where it is noticed. -/
namespace TunnelRelay

namespace Surroundings

def calm (w : Surroundings σ) : Surroundings σ := { w with cancelled := fun _ => false }

@[simp] theorem calmBind (w : Surroundings σ) : w.calm.bind = w.bind := rfl

@[simp] theorem calmDraw (w : Surroundings σ) : w.calm.draw = w.draw := rfl

end Surroundings

namespace PortSearch

variable {σ : Type} {s : ListenSettings} {preferred : Option Endpoint} {w : Surroundings σ} {a : Address}

theorem tryFromAddress (left drawing : Nat) {e : Endpoint} (here : e.address = a) {asked : List Endpoint}
    (before : ∀ x ∈ asked, x.address = a) : ∀ x ∈ (tryFrom s a w left drawing e asked).asked, x.address = a := by
  have now : ∀ x ∈ asked ++ [e], x.address = a := fun x mem => by
    rcases List.mem_append.mp mem with earlier | last
    · exact before x earlier
    · rw [List.mem_singleton.mp last, here]
  induction left generalizing drawing e asked with
  | zero =>
    unfold tryFrom
    split
    · exact before
    · dsimp only
      split <;> exact now
  | succ left ih =>
    unfold tryFrom
    split
    · exact before
    dsimp only
    split
    · exact now
    split
    · split
      · refine ih _ (Endpoint.ofAddressAddress ..) now fun x mem => ?_
        rcases List.mem_append.mp mem with earlier | last
        · exact now x earlier
        · rw [List.mem_singleton.mp last, Endpoint.ofAddressAddress]
      · exact now
    · exact now

theorem runForbidden {e : Endpoint} (forbidden : forbidden s preferred = some e) :
    run s preferred w = ⟨[], .error (.invalidEndpoint e)⟩ := by
  rw [run, forbidden]

theorem runAddress : ∀ x ∈ (run s preferred w).asked,
    forbidden s preferred = none ∧ x.address = address s preferred := by
  unfold run
  cases allowed : forbidden s preferred with
  | some e => simp
  | none =>
    intro x mem
    refine ⟨rfl, ?_⟩
    dsimp only at mem
    split at mem
    · rename_i e port
      obtain ⟨chosen, -⟩ := Option.filter_eq_some_iff.mp port
      have here : e.address = address s preferred := by simp [address, chosen]
      exact tryFromAddress _ _ here (by simp) x mem
    · split at mem
      · exact tryFromAddress _ _ (Endpoint.ofAddressAddress ..) (by simp) x mem
      · simp at mem

theorem runLoopback (only : s.loopbackOnly = true) : ∀ x ∈ (run s preferred w).asked, x.isLoopback = true := by
  intro x mem
  obtain ⟨allowed, same⟩ := runAddress x mem
  rw [Endpoint.isLoopback, same]
  cases chosen : preferred with
  | none => simp [address, only, Address.isLoopback, Ipv4.localhost]
  | some e =>
    simp only [forbidden, chosen, only, Option.filter_eq_none_iff] at allowed
    simpa [address, Endpoint.isLoopback] using allowed

structure Candidates (s : ListenSettings) (preferred : Option Endpoint) (asked : List Endpoint) : Prop where
  apart : (asked.map Endpoint.port).Nodup
  nonzero : ∀ e ∈ asked, e.port ≠ 0
  first : ∀ e x, withPort preferred = some e → asked.head? = some x → x = e
  ranged : ∀ (i : Nat) e, asked[i]? = some e → s.ports.contains e.port = true ∨ i = 0 ∧ preferred = some e

def Refused (bind : List Endpoint → Endpoint → Except Failure σ) (asked : List Endpoint) : Prop :=
  ∀ (i : Nat) e, asked[i]? = some e →
    ∃ failure, bind (asked.take i) e = .error failure ∧ failure.isPortConflict = true

def Exhausted (s : ListenSettings) (asked : List Endpoint) : Prop :=
  ∀ port, s.ports.contains port = true → port ≠ 0 → port ∈ asked.map Endpoint.port

structure Answered (s : ListenSettings) (preferred : Option Endpoint)
    (bind : List Endpoint → Endpoint → Except Failure σ) (f : Search σ) : Prop where
  candidates : Candidates s preferred f.asked
  budget : f.asked.length ≤ s.attempts
  answer : ∃ before last, f.asked = before ++ [last] ∧ Refused bind before ∧ f.outcome = bind before last ∧
    ∀ failure, bind before last = .error failure → failure.isPortConflict = true →
      f.asked.length = s.attempts ∨ Exhausted s f.asked

theorem candidatesAlone {e : Endpoint} (nonzero : e.port ≠ 0) (first : ∀ x, withPort preferred = some x → e = x)
    (ranged : s.ports.contains e.port = true ∨ preferred = some e) : Candidates s preferred [e] := by
  refine ⟨by simp, by simpa using nonzero, fun x y chosen head => ?_, fun i x found => ?_⟩
  · cases head
    exact first x chosen
  · obtain ⟨rfl, rfl⟩ : i = 0 ∧ e = x := by
      cases i with
      | zero => exact ⟨rfl, Option.some.inj found⟩
      | succ i => simp at found
    exact ranged.imp_right fun chosen => ⟨rfl, chosen⟩

theorem candidatesMore {asked : List Endpoint} (candidates : Candidates s preferred asked) (begun : asked ≠ [])
    {random : Nat → Nat} {port : UInt16} (chosen : s.ports.next (asked.map Endpoint.port) random = some port) :
    Candidates s preferred (asked ++ [.ofAddress a port]) := by
  obtain ⟨inside, nonzero, fresh⟩ := PortRange.nextSome chosen
  refine ⟨?apart, ?nonzero, fun e x wanted head => candidates.first e x wanted ?first, fun i e found => ?ranged⟩
  case apart =>
    rw [List.map_append, List.nodup_append]
    refine ⟨candidates.apart, by simp, fun p old q new => ?_⟩
    rw [List.map_singleton, List.mem_singleton, Endpoint.ofAddressPort] at new
    rintro rfl
    exact fresh (new ▸ old)
  case nonzero =>
    intro e mem
    rcases List.mem_append.mp mem with old | new
    · exact candidates.nonzero e old
    · rw [List.mem_singleton.mp new, Endpoint.ofAddressPort]
      exact nonzero
  case first =>
    obtain ⟨old, rest, rfl⟩ := List.exists_cons_of_ne_nil begun
    exact head
  case ranged =>
    rw [List.getElem?_append] at found
    split at found
    · exact candidates.ranged i e found
    · rw [List.mem_singleton.mp (List.mem_of_getElem? found), Endpoint.ofAddressPort]
      exact .inl inside

theorem refusedMore {bind : List Endpoint → Endpoint → Except Failure σ} {asked : List Endpoint}
    (refused : Refused bind asked) {e : Endpoint} {failure : Failure} (answer : bind asked e = .error failure)
    (conflict : failure.isPortConflict = true) : Refused bind (asked ++ [e]) := by
  intro i x found
  rw [List.getElem?_append] at found
  split at found
  · rename_i inside
    rw [List.take_append_of_le_length (Nat.le_of_lt inside)]
    exact refused i x found
  · rename_i outside
    obtain ⟨small, rfl⟩ := List.getElem?_eq_some_iff.mp found
    have last : i = asked.length := by
      rw [List.length_singleton] at small
      omega
    subst last
    refine ⟨failure, ?_, conflict⟩
    simpa using answer

theorem answeredHere {bind : List Endpoint → Endpoint → Except Failure σ} {asked : List Endpoint} {e : Endpoint}
    (candidates : Candidates s preferred (asked ++ [e])) (refused : Refused bind asked)
    (budget : asked.length + 1 ≤ s.attempts) {outcome : Except Failure σ} (answer : bind asked e = outcome)
    (ended : ∀ failure, outcome = .error failure → failure.isPortConflict = true →
      asked.length + 1 = s.attempts ∨ Exhausted s (asked ++ [e])) :
    Answered s preferred bind ⟨asked ++ [e], outcome⟩ := by
  subst answer
  refine ⟨candidates, by simpa using budget, asked, e, rfl, refused, rfl, ?_⟩
  simpa using ended

theorem tryFromAnswered (uncancelled : ∀ asked, w.cancelled asked = false) (left drawing : Nat) {e : Endpoint}
    {asked : List Endpoint} (candidates : Candidates s preferred (asked ++ [e])) (refused : Refused w.bind asked)
    (budget : asked.length + 1 + left = s.attempts) :
    Answered s preferred w.bind (tryFrom s a w left drawing e asked) := by
  induction left generalizing drawing e asked with
  | zero =>
    unfold tryFrom
    rw [uncancelled, if_neg (by decide)]
    dsimp only
    split <;> rename_i answer
    · exact answeredHere candidates refused (by omega) answer nofun
    · exact answeredHere candidates refused (by omega) answer fun _ _ _ => .inl budget
  | succ left ih =>
    unfold tryFrom
    rw [uncancelled, if_neg (by decide)]
    dsimp only
    split <;> rename_i answer
    · exact answeredHere candidates refused (by omega) answer nofun
    split <;> rename_i conflict
    · split <;> rename_i port
      · refine ih _ (candidatesMore candidates (by simp) port) (refusedMore refused answer conflict) ?_
        simp only [List.length_append, List.length_singleton]
        omega
      · exact answeredHere candidates refused (by omega) answer fun _ _ _ => .inr fun _ inside nonzero =>
          PortRange.nextNone port inside nonzero
    · refine answeredHere candidates refused (by omega) answer fun failure same conflict' => ?_
      cases same
      exact absurd conflict' conflict

structure Complete (s : ListenSettings) (preferred : Option Endpoint)
    (bind : List Endpoint → Endpoint → Except Failure σ) (f : Search σ) : Prop where
  nothing : f.asked = [] ↔ withPort preferred = none ∧ Exhausted s []
  unasked : f.asked = [] → ∃ error, f.outcome = .error (.io error) ∧ error.kind = .addrNotAvailable ∧
    error.message = "no untried port left in the ephemeral range"
  answered : f.asked ≠ [] → Answered s preferred bind f

theorem answeredComplete {bind : List Endpoint → Endpoint → Except Failure σ} {f : Search σ}
    (answered : Answered s preferred bind f) (something : ¬ (withPort preferred = none ∧ Exhausted s [])) :
    Complete s preferred bind f := by
  obtain ⟨before, last, asked, -⟩ := answered.answer
  have begun : f.asked ≠ [] := by simp [asked]
  exact ⟨⟨fun empty => absurd empty begun, fun none' => absurd none' something⟩,
    fun empty => absurd empty begun, fun _ => answered⟩

theorem runComplete (uncancelled : ∀ asked, w.cancelled asked = false) (acceptable : forbidden s preferred = none)
    (budget : 0 < s.attempts) : Complete s preferred w.bind (run s preferred w) := by
  have untold : Refused w.bind [] := fun i e found => by simp at found
  unfold run
  rw [acceptable]
  dsimp only
  cases wanted : withPort preferred with
  | some e =>
    obtain ⟨chosen, port⟩ := Option.filter_eq_some_iff.mp wanted
    have alone : Candidates s preferred ([] ++ [e]) :=
      candidatesAlone (by simpa using port) (fun x same => Option.some.inj (wanted.symm.trans same)) (.inr chosen)
    refine answeredComplete (tryFromAnswered uncancelled _ _ alone untold (by simp; omega)) ?_
    simp [wanted]
  | none =>
    dsimp only
    split
    · rename_i port chosen
      obtain ⟨inside, nonzero, -⟩ := PortRange.nextSome chosen
      have alone : Candidates s preferred ([] ++ [Endpoint.ofAddress (address s preferred) port]) := by
        refine candidatesAlone ?_ (fun x same => by cases wanted.symm.trans same) (.inl ?_)
        · rwa [Endpoint.ofAddressPort]
        · rwa [Endpoint.ofAddressPort]
      refine answeredComplete (tryFromAnswered uncancelled _ _ alone untold (by simp; omega)) fun nothing => ?_
      simpa using nothing.2 port inside nonzero
    · rename_i none'
      refine ⟨⟨fun _ => ⟨wanted, fun port inside nonzero => ?_⟩, fun _ => rfl⟩, fun _ => ⟨_, rfl, rfl, rfl⟩,
        fun begun => absurd rfl begun⟩
      exact PortRange.nextNone none' inside nonzero

theorem tryFromGrows (left drawing : Nat) (e : Endpoint) (asked : List Endpoint) :
    ∃ more, (tryFrom s a w.calm left drawing e asked).asked = asked ++ e :: more := by
  induction left generalizing drawing e asked with
  | zero =>
    refine ⟨[], ?_⟩
    unfold tryFrom
    rw [if_neg (by simp [Surroundings.calm])]
    dsimp only
    split <;> rfl
  | succ left ih =>
    unfold tryFrom
    rw [if_neg (by simp [Surroundings.calm])]
    dsimp only
    split
    · exact ⟨[], rfl⟩
    split
    · split
      · obtain ⟨more, grown⟩ := ih (drawing + 1) (.ofAddress a _) (asked ++ [e])
        exact ⟨_, by rw [grown, List.append_assoc]; rfl⟩
      · exact ⟨[], rfl⟩
    · exact ⟨[], rfl⟩

/- A search is the one that nobody cancels, up to the first bind before which it notices a cancellation. -/
structure CutShort (w : Surroundings σ) (start : Nat) (whole f : Search σ) : Prop where
  unnoticed : (∀ i, start ≤ i → i < whole.asked.length → w.cancelled (whole.asked.take i) = false) → f = whole
  noticed : ∀ i, start ≤ i → i < whole.asked.length →
    (∀ j, start ≤ j → j < i → w.cancelled (whole.asked.take j) = false) → w.cancelled (whole.asked.take i) = true →
    f = ⟨whole.asked.take i, .error .cancelled⟩

theorem cutHere {asked : List Endpoint} {e : Endpoint} {whole : Search σ}
    (grown : ∃ more, whole.asked = asked ++ e :: more) (cancelled : w.cancelled asked = true) :
    CutShort w asked.length whole ⟨asked, .error .cancelled⟩ := by
  obtain ⟨more, grown⟩ := grown
  have here : whole.asked.take asked.length = asked := by rw [grown, List.take_left]
  have inside : asked.length < whole.asked.length := by
    rw [grown, List.length_append, List.length_cons]
    omega
  refine ⟨fun unnoticed => ?_, fun i above below before at' => ?_⟩
  · have missed := unnoticed asked.length (Nat.le_refl _) inside
    rw [here, cancelled] at missed
    contradiction
  · rcases Nat.lt_or_eq_of_le above with later | rfl
    · have missed := before asked.length (Nat.le_refl _) later
      rw [here, cancelled] at missed
      contradiction
    · rw [here]

theorem cutLater {asked : List Endpoint} {e : Endpoint} {whole f : Search σ}
    (grown : ∃ more, whole.asked = asked ++ e :: more) (uncancelled : w.cancelled asked = false)
    (cut : CutShort w (asked.length + 1) whole f) : CutShort w asked.length whole f := by
  obtain ⟨more, grown⟩ := grown
  have here : w.cancelled (whole.asked.take asked.length) = false := by rw [grown, List.take_left, uncancelled]
  refine ⟨fun unnoticed => cut.unnoticed fun i above below => unnoticed i (by omega) below, ?_⟩
  intro i above below before at'
  rcases Nat.lt_or_eq_of_le above with later | rfl
  · exact cut.noticed i later below (fun j after early => before j (by omega) early) at'
  · rw [here] at at'
    contradiction

theorem cutFrom {asked : List Endpoint} {e : Endpoint} {whole f : Search σ}
    (grown : ∃ more, whole.asked = asked ++ e :: more)
    (stops : w.cancelled asked = true → f = ⟨asked, .error .cancelled⟩)
    (goesOn : w.cancelled asked = false → CutShort w (asked.length + 1) whole f) : CutShort w asked.length whole f := by
  cases cancelled : w.cancelled asked with
  | true => exact stops cancelled ▸ cutHere grown cancelled
  | false => exact cutLater grown cancelled (goesOn cancelled)

theorem cutNowhere {start : Nat} {whole : Search σ} (asked : whole.asked.length ≤ start) :
    CutShort w start whole whole :=
  ⟨fun _ => rfl, fun i above below => by omega⟩

theorem tryFromCut (left drawing : Nat) (e : Endpoint) (asked : List Endpoint) :
    CutShort w asked.length (tryFrom s a w.calm left drawing e asked) (tryFrom s a w left drawing e asked) := by
  induction left generalizing drawing e asked with
  | zero =>
    refine cutFrom (tryFromGrows ..) (fun cancelled => by unfold tryFrom; rw [if_pos cancelled]) fun uncancelled => ?_
    unfold tryFrom
    rw [if_neg (by simp [Surroundings.calm]), if_neg (by simp [uncancelled])]
    simp only [Surroundings.calmBind]
    split <;> exact cutNowhere (by simp)
  | succ left ih =>
    refine cutFrom (tryFromGrows ..) (fun cancelled => by unfold tryFrom; rw [if_pos cancelled]) fun uncancelled => ?_
    unfold tryFrom
    rw [if_neg (by simp [Surroundings.calm]), if_neg (by simp [uncancelled])]
    simp only [Surroundings.calmBind, Surroundings.calmDraw]
    split
    · exact cutNowhere (by simp)
    split
    · split
      · simpa using ih (drawing + 1) (.ofAddress a _) (asked ++ [e])
      · exact cutNowhere (by simp)
    · exact cutNowhere (by simp)

theorem runCut (acceptable : forbidden s preferred = none) :
    CutShort w 0 (run s preferred w.calm) (run s preferred w) := by
  unfold run
  rw [acceptable]
  simp only [Surroundings.calmDraw]
  split
  · exact tryFromCut _ _ _ []
  · split
    · exact tryFromCut _ _ _ []
    · exact cutNowhere (Nat.zero_le _)

theorem runUncut (acceptable : forbidden s preferred = none) {socket : σ} (found : (run s preferred w).outcome = .ok socket) :
    run s preferred w = run s preferred w.calm := by
  have cut := runCut (w := w) acceptable
  refine cut.unnoticed fun i _ below => ?_
  -- The first bind before which a cancellation is noticed would have ended the search.
  induction i using Nat.strongRecOn with
  | ind i earlier =>
    cases noticed : w.cancelled ((run s preferred w.calm).asked.take i) with
    | false => rfl
    | true =>
      have before (j : Nat) (_ : 0 ≤ j) (less : j < i) := earlier j less (Nat.zero_le j) (by omega)
      rw [cut.noticed i (Nat.zero_le i) below before noticed] at found
      cases found

theorem runFound (acceptable : forbidden s preferred = none) (budget : 0 < s.attempts) {socket : σ}
    (found : (run s preferred w).outcome = .ok socket) :
    ∃ before last, (run s preferred w).asked = before ++ [last] ∧ Candidates s preferred (before ++ [last]) ∧
      Refused w.bind before ∧ w.bind before last = .ok socket := by
  have complete := runComplete (w := w.calm) (fun _ => rfl) acceptable budget
  rw [← runUncut acceptable found] at complete
  have begun : (run s preferred w).asked ≠ [] := fun nothing => by
    obtain ⟨error, failed, -⟩ := complete.unasked nothing
    cases failed.symm.trans found
  have answered := complete.answered begun
  obtain ⟨before, last, asked, refused, answer, -⟩ := answered.answer
  exact ⟨before, last, asked, asked ▸ answered.candidates, refused, answer.symm.trans found⟩

theorem preferredKept {bind : List Endpoint → Endpoint → Except Failure σ} {before : List Endpoint} {last e : Endpoint}
    (candidates : Candidates s preferred (before ++ [last])) (refused : Refused bind before)
    (wanted : withPort preferred = some e) {socket : σ} (binds : bind [] e = .ok socket) : last = e := by
  cases before with
  | nil => exact candidates.first e last wanted rfl
  | cons x rest =>
    obtain rfl : x = e := candidates.first e x wanted rfl
    obtain ⟨failure, refuses, -⟩ := refused 0 x rfl
    cases refuses.symm.trans binds

/- The search for a port, with any range, binder, draws and canceller. Undisturbed, it asks for nothing
only if there is nothing to ask for; otherwise it asks for candidates one by one while it is refused over
the port, and ends with the last answer. A cancellation before one of these binds ends it there. -/
theorem searchComplete (acceptable : forbidden s preferred = none) (budget : 0 < s.attempts) :
    Complete s preferred w.bind (run s preferred w.calm) ∧
    ((∀ i < (run s preferred w.calm).asked.length, w.cancelled ((run s preferred w.calm).asked.take i) = false) →
      run s preferred w = run s preferred w.calm) ∧
    ∀ i < (run s preferred w.calm).asked.length,
      (∀ j < i, w.cancelled ((run s preferred w.calm).asked.take j) = false) →
      w.cancelled ((run s preferred w.calm).asked.take i) = true →
      run s preferred w = ⟨(run s preferred w.calm).asked.take i, .error .cancelled⟩ := by
  have cut := runCut (w := w) acceptable
  refine ⟨runComplete (w := w.calm) (fun _ => rfl) acceptable budget, fun unnoticed => ?_, fun i below before at' => ?_⟩
  · exact cut.unnoticed fun i _ below => unnoticed i below
  · exact cut.noticed i (Nat.zero_le i) below (fun j _ early => before j early) at'

theorem searchCompleteTwoPorts :
    let s : ListenSettings := { attempts := 3, ports := ⟨0, 2⟩ }
    let preferred : Option Endpoint := some (.v4 .localhost 1)
    let w : Surroundings Unit :=
      { bind := fun _ e => .error (.portAccessDenied e (.os 98))
        draw := fun _ random => random
        cancelled := fun asked => asked.length == 1 }
    forbidden s preferred = none ∧ 0 < s.attempts ∧ Complete s preferred w.bind (run s preferred w.calm) ∧
      (run s preferred w.calm).asked = [.v4 .localhost 1, .v4 .localhost 2] ∧
      run s preferred w = ⟨[.v4 .localhost 1], .error .cancelled⟩ := by
  intro s preferred w
  have asked : (run s preferred w.calm).asked = [.v4 .localhost 1, .v4 .localhost 2] := by decide
  have acceptable : forbidden s preferred = none := rfl
  obtain ⟨complete, -, cut⟩ := searchComplete (w := w) acceptable (by decide)
  have first : ∀ j < 1, w.cancelled ((run s preferred w.calm).asked.take j) = false := by
    intro j early
    rw [asked, Nat.lt_one_iff.mp early]
    rfl
  have short := cut 1 (by rw [asked]; decide) first (by rw [asked]; decide)
  rw [asked] at short
  exact ⟨acceptable, by decide, complete, asked, short⟩

end PortSearch
end TunnelRelay
