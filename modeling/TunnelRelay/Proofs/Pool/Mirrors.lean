import TunnelRelay.Proofs.Pool.Sortings

/-! States that hold the same of every key. What can be done in the one can be done in the other
with the numbers it has there, and two neighbouring steps of different keys lead to two such
states, whichever comes first. -/
namespace TunnelRelay.Shared

variable {s s' : Sorting} {k : ProfileKey} {a b : Action}

/- The same step in another state: its numbers are at the same places among those of the key. -/
structure Counterpart (s s' : Sorting) (k : ProfileKey) (u : Shared) (a a' : Action) : Prop where
  mentions : u.Mentions a'
  key : Sorting.made a' = 0 → s'.keyOf u.service.tunnels.length a' = k
  handed : ∀ r t, a' = .deliver r t → s'.tunnel t = s'.request r
  action : s'.actionOf k a' = s.actionOf k a

section
variable {u v : Shared} (same : s'.only k u = s.only k v)
include same

theorem sizesSame : s'.requestAt k u.service.requests.length = s.requestAt k v.service.requests.length ∧
    s'.tunnelAt k u.service.tunnels.length = s.tunnelAt k v.service.tunnels.length ∧
    s'.teardownAt k u.teardowns.length = s.teardownAt k v.teardowns.length := by
  have requests := congrArg (fun c => c.service.requests.length) same
  have tunnels := congrArg (fun c => c.service.tunnels.length) same
  have teardowns := congrArg (fun c => c.teardowns.length) same
  simp only [Sorting.only, Sorting.serviceOf, List.length_map, Labels.pickLength] at requests tunnels teardowns
  exact ⟨requests, tunnels, teardowns⟩

omit same in
theorem mentionsSame (same : s.only k u = s.only k v) (allots : Allots s v a)
    (own : s.keyOf v.service.tunnels.length a = k) (mentions : v.Mentions a) : u.Mentions a := by
  obtain ⟨requests, tunnels, teardowns⟩ := sizesSame same
  have request {r : Nat} (label : s.request r = k) (below : r < v.service.requests.length) :
      r < u.service.requests.length :=
    (Labels.placeBelow label).mp (Nat.lt_of_lt_of_eq ((Labels.placeBelow label).mpr below) requests.symm)
  have tunnel {t : TunnelId} (label : s.tunnel t = k) (below : t < v.service.tunnels.length) :
      t < u.service.tunnels.length :=
    (Labels.placeBelow label).mp (Nat.lt_of_lt_of_eq ((Labels.placeBelow label).mpr below) tunnels.symm)
  cases a with
  | ask | make => trivial
  | advance | fail | abort | release | leave => exact request own mentions
  | deliver r t => exact ⟨request own mentions.1, tunnel ((allots.tunnel r t rfl).trans own) mentions.2⟩
  | teardown =>
    exact (Labels.placeBelow own).mp (Nat.lt_of_lt_of_eq ((Labels.placeBelow own).mpr mentions) teardowns.symm)
  | _ => exact tunnel own mentions

theorem counterpart (allots : Allots s v a) (own : s.keyOf v.service.tunnels.length a = k) (mentions : v.Mentions a) :
    ∃ a', Counterpart s s' k u a a' := by
  obtain ⟨requests, tunnels, teardowns⟩ := sizesSame same
  obtain ⟨f, request⟩ := Labels.placeMatched requests
  obtain ⟨g, tunnel⟩ := Labels.placeMatched tunnels
  obtain ⟨h, teardown⟩ := Labels.placeMatched teardowns
  refine ⟨a.rename f g h, ?_⟩
  cases a with
  | ask p => exact ⟨trivial, fun _ => own, by rintro _ _ ⟨⟩, rfl⟩
  | make => exact ⟨trivial, fun none => absurd none Nat.one_ne_zero, by rintro _ _ ⟨⟩, rfl⟩
  | advance r | fail r | abort r | release r | leave r =>
    obtain ⟨below, label, place⟩ := request r mentions own
    refine ⟨below, fun _ => label, by rintro _ _ ⟨⟩, ?_⟩
    simp only [Sorting.actionOf, Action.rename, Sorting.requestAt, place]
  | deliver r t =>
    obtain ⟨below, label, place⟩ := request r mentions.1 own
    obtain ⟨below', label', place'⟩ := tunnel t mentions.2 ((allots.tunnel r t rfl).trans own)
    refine ⟨⟨below, below'⟩, fun _ => label, fun _ _ here => ?_, ?_⟩
    · cases here
      exact label'.trans label.symm
    · simp only [Sorting.actionOf, Action.rename, Sorting.requestAt, Sorting.tunnelAt, place, place']
  | teardown i =>
    obtain ⟨below, label, place⟩ := teardown i mentions own
    refine ⟨below, fun _ => label, by rintro _ _ ⟨⟩, ?_⟩
    simp only [Sorting.actionOf, Action.rename, Sorting.teardownAt, place]
  | arrive t | poll t | act t | share t | letGo t | dispose t | destroy t =>
    obtain ⟨below, label, place⟩ := tunnel t mentions own
    refine ⟨below, fun _ => label, by rintro _ _ ⟨⟩, ?_⟩
    simp only [Sorting.actionOf, Action.rename, Sorting.tunnelAt, place]

end

structure Follows (s s' : Sorting) (k : ProfileKey) (u : Shared) (a : Action) (u' : Shared) : Prop where
  moved : u.step a = some u'
  extends' : Extends s s' u
  allots : Allots s' u a
  sorted : Sorted s' u'
  key : s'.keyOf u.service.tunnels.length a = k
  others : ∀ k', k ≠ k' → s'.only k' u' = s.only k' u

theorem follows {u v w : Shared} {a' : Action} (sorted : Sorted s v) (allots : Allots s v a)
    (own : s.keyOf v.service.tunnels.length a = k) (moved : v.step a = some w) (sorted' : Sorted s' u)
    (known : Known u) (same : s'.only k u = s.only k v) (counter : Counterpart s s' k u a a') :
    ∃ u', Follows s' (relabel s' u k a') k u a' u' ∧ (relabel s' u k a').only k u' = s.only k w := by
  have extends' := relabelExtends s' u k a'
  have labelled := sortedExtends extends' sorted' known
  have allots' := relabelAllots counter.key sorted' counter.handed
  have key := relabelKey counter.mentions counter.key
  have start (k' : ProfileKey) := onlyExtends extends' sorted' known k'
  have action := (actionExtends extends' counter.mentions).trans counter.action
  have there := Sorting.stepOwn sorted allots own
  have here := Sorting.stepOwn labelled allots' key
  rw [moved, Option.map_some] at there
  rw [start, same, action, there] at here
  obtain ⟨u', taken, left⟩ := Option.map_eq_some_iff.mp here.symm
  refine ⟨u', ⟨taken, extends', allots', sortedStep taken labelled allots', key, fun k' apart => ?_⟩, left⟩
  exact (Sorting.stepOther labelled allots' (key.symm ▸ apart) taken).trans (start k')

structure Mirror (s s' : Sorting) (c d : Shared) : Prop where
  sorted : Sorted s c
  sorted' : Sorted s' d
  same : ∀ k, s'.only k d = s.only k c

section
variable {d e f g : Shared} {m n : ProfileKey} {s₁ : Sorting}

theorem firstCounterpart (mentions : d.Mentions a) (allots : Allots s d a)
    (own : s.keyOf d.service.tunnels.length a = m) (ahead : Follows s s₁ n d b g) : Counterpart s s₁ m g a a := by
  refine ⟨mentionsGrow (stepCases ahead.moved) mentions, fun none => ?_, fun r t here => ?_, ?_⟩
  · exact (keyExtends ahead.extends' mentions fun makes => absurd none makes).trans own
  · subst here
    rw [ahead.extends'.tunnel t mentions.2, ahead.extends'.request r mentions.1, allots.tunnel r t rfl]
  · exact actionExtends ahead.extends' mentions

theorem secondCounterpart (past : s.only n e = s.only n d) (mentions : e.Mentions b) (allots : Allots s e b)
    (own : s.keyOf e.service.tunnels.length b = n) : Counterpart s s n d b b := by
  have mentions := mentionsSame past.symm allots own mentions
  refine ⟨mentions, fun none => ?_, allots.tunnel, rfl⟩
  exact (keyExtends (extendsRefl s d) mentions fun makes => absurd none makes).trans own

variable (first : d.step a = some e) (moved : d.step b = some g)
include first moved

theorem tunnelsExchanged (own : s.keyOf d.service.tunnels.length a = m) (own' : s.keyOf e.service.tunnels.length b = n)
    (one : Sorting.made a = 0 ∨ Sorting.made b = 0) : (relabel (relabel s d n b) g m a).tunnel = s.tunnel := by
  have tunnels : (relabel s d n b).tunnel = s.tunnel := by
    refine relabelTunnel fun makes => ?_
    have length := tunnelsMade first
    rw [one.resolve_right makes, Nat.add_zero] at length
    rw [← length]
    exact (keyMade s makes).trans own'
  refine (relabelTunnel fun makes => ?_).trans tunnels
  have length := tunnelsMade moved
  rw [one.resolve_left makes, Nat.add_zero] at length
  rw [tunnels, length]
  exact (keyMade s makes).trans own

theorem requestsExchanged (allots : Allots s d a) (allots' : Allots s e b)
    (own : s.keyOf d.service.tunnels.length a = m) (own' : s.keyOf e.service.tunnels.length b = n)
    (one : (∀ p, a ≠ .ask p) ∨ ∀ p, b ≠ .ask p) : (relabel (relabel s d n b) g m a).request = s.request := by
  have requests : (relabel s d n b).request = s.request := by
    refine relabelRequest fun p here => ?_
    have length := requestsKept (stepCases first) (one.resolve_right fun never => never p here)
    subst here
    exact (length ▸ allots'.request p rfl).trans own'
  refine (relabelRequest fun p here => ?_).trans requests
  have length := requestsKept (stepCases moved) (one.resolve_left fun never => never p here)
  subst here
  rw [requests, length]
  exact (allots.request p rfl).trans own

end

structure Exchanged (s s' : Sorting) (d : Shared) (a b : Action) (f g h : Shared) : Prop where
  second : d.step b = some g
  first : g.step a = some h
  extends' : Extends s s' d
  fits : Fits s' d [b, a]
  mirror : Mirror s s' f h
  tunnels : Sorting.made a = 0 ∨ Sorting.made b = 0 → s'.tunnel = s.tunnel
  requests : (∀ p, a ≠ .ask p) ∨ (∀ p, b ≠ .ask p) → s'.request = s.request

theorem exchanged {d e f : Shared} (reachable : d.Reachable) (sorted : Sorted s d) (first : d.step a = some e)
    (second : e.step b = some f) (allots : Allots s d a) (allots' : Allots s e b)
    (apart : s.keyOf d.service.tunnels.length a ≠ s.keyOf e.service.tunnels.length b) :
    ∃ s' g h, Exchanged s s' d a b f g h := by
  obtain ⟨m, own⟩ : ∃ m, s.keyOf d.service.tunnels.length a = m := ⟨_, rfl⟩
  obtain ⟨n, own'⟩ : ∃ n, s.keyOf e.service.tunnels.length b = n := ⟨_, rfl⟩
  rw [own, own'] at apart
  have known := knownReachable reachable
  have reachable' := reachableStep reachable first
  have sorted' := sortedStep first sorted allots
  have mentions := mentioned known (keyedReachable reachable) first
  have mentions' := mentioned (knownReachable reachable') (keyedReachable reachable') second
  have past (k : ProfileKey) (other : m ≠ k) := Sorting.stepOther sorted allots (own ▸ other) first
  have last (k : ProfileKey) (other : n ≠ k) := Sorting.stepOther sorted' allots' (own' ▸ other) second
  obtain ⟨g, ahead, left⟩ := follows sorted' allots' own' second sorted known (past n apart).symm
    (secondCounterpart (past n apart) mentions' allots' own')
  have known' := knownReachable (reachableStep reachable ahead.moved)
  obtain ⟨h, behind, left'⟩ := follows sorted allots own first ahead.sorted known' (ahead.others m apart.symm)
    (firstCounterpart mentions allots own ahead)
  refine ⟨_, g, h, ahead.moved, behind.moved, ?extends', ?fits, ⟨?sorted, behind.sorted, ?same⟩,
    tunnelsExchanged first ahead.moved own own', requestsExchanged first ahead.moved allots allots' own own'⟩
  case extends' => exact extendsTrans ahead.extends' (extendsBefore (stepCases ahead.moved) behind.extends')
  case fits =>
    have labelled := sortedExtends ahead.extends' sorted known
    refine ⟨allotsExtends ahead.moved labelled ahead.allots known' behind.extends', fun u here => ?_⟩
    cases ahead.moved.symm.trans here
    exact ⟨behind.allots, fun _ _ => trivial⟩
  case sorted => exact sortedStep second sorted' allots'
  case same =>
    intro k
    by_cases here : m = k
    · subst here
      exact left'.trans (last m apart.symm).symm
    · by_cases here' : n = k
      · subst here'
        exact (behind.others n here).trans left
      · exact ((behind.others k here).trans (ahead.others k here')).trans ((last k here').trans (past k here)).symm

def Counterparts (s s' : Sorting) : Nat → Nat → List Action → List Action → Prop
  | _, _, [], [] => True
  | m, n, a :: rest, a' :: rest' =>
      s'.keyOf n a' = s.keyOf m a ∧ s'.actionOf (s.keyOf m a) a' = s.actionOf (s.keyOf m a) a ∧
        Counterparts s s' (m + Sorting.made a) (n + Sorting.made a') rest rest'
  | _, _, _, _ => False

theorem extendsRun {c c' : Shared} {actions : List Action} (ran : c.run actions = some c')
    (extends' : Extends s s' c') : Extends s s' c :=
  runKeeps (P := fun d => Extends s s' d → Extends s s' c)
    (fun step before extends' => before (extendsBefore step extends')) id ran extends'

theorem fitsExtends {c c' : Shared} {actions : List Action} (reachable : c.Reachable) (ran : c.run actions = some c')
    (sorted : Sorted s c) (fits : Fits s c actions) (extends' : Extends s s' c') : Fits s' c actions := by
  induction actions generalizing c with
  | nil => trivial
  | cons a rest ih =>
    obtain ⟨next, moved, ran⟩ := Option.bind_eq_some_iff.mp ran
    obtain ⟨allots, fits⟩ := fits
    have reachable' := reachableStep reachable moved
    have labels := allotsExtends moved sorted allots (knownReachable reachable') (extendsRun ran extends')
    refine ⟨labels, fun d here => ?_⟩
    cases moved.symm.trans here
    exact ih reachable' ran (sortedStep moved sorted allots) (fits next moved)

theorem fitsAppend {c c' : Shared} {before rest : List Action} (ran : c.run before = some c') (first : Fits s c before)
    (second : Fits s c' rest) : Fits s c (before ++ rest) := by
  induction before generalizing c with
  | nil =>
    cases ran
    exact second
  | cons a before ih =>
    obtain ⟨next, moved, ran⟩ := Option.bind_eq_some_iff.mp ran
    obtain ⟨allots, first⟩ := first
    refine ⟨allots, fun d here => ?_⟩
    cases moved.symm.trans here
    exact ih ran (first next moved)

theorem mirrorStep {c c' d : Shared} (reachable : c.Reachable) (reachable' : d.Reachable) (moved : c.step a = some c')
    (allots : Allots s c a) (mirror : Mirror s s' c d) :
    ∃ s'' a' d', Follows s' s'' (s.keyOf c.service.tunnels.length a) d a' d' ∧ d.Mentions a' ∧
      s''.actionOf (s.keyOf c.service.tunnels.length a) a' = s.actionOf (s.keyOf c.service.tunnels.length a) a ∧
      Mirror s s'' c' d' := by
  have mentions := mentioned (knownReachable reachable) (keyedReachable reachable) moved
  obtain ⟨a', counter⟩ := counterpart (mirror.same _) allots rfl mentions
  obtain ⟨d', follows, own⟩ :=
    follows mirror.sorted allots rfl moved mirror.sorted' (knownReachable reachable') (mirror.same _) counter
  refine ⟨_, a', d', follows, counter.mentions, ?_, sortedStep moved mirror.sorted allots, follows.sorted, fun k => ?_⟩
  · exact (actionExtends follows.extends' counter.mentions).trans counter.action
  · by_cases here : s.keyOf c.service.tunnels.length a = k
    · exact here ▸ own
    · exact ((follows.others k here).trans (mirror.same k)).trans
        (Sorting.stepOther mirror.sorted allots here moved).symm

theorem mirrorRun {c c' d : Shared} {rest : List Action} (reachable : c.Reachable) (reachable' : d.Reachable)
    (ran : c.run rest = some c') (fits : Fits s c rest) (mirror : Mirror s s' c d) :
    ∃ s'' rest' d', d.run rest' = some d' ∧ Extends s' s'' d ∧ Fits s'' d rest' ∧
      Counterparts s s'' c.service.tunnels.length d.service.tunnels.length rest rest' ∧ Mirror s s'' c' d' := by
  induction rest generalizing c d s' with
  | nil =>
    cases ran
    exact ⟨s', [], d, rfl, extendsRefl s' d, trivial, trivial, mirror⟩
  | cons a rest ih =>
    obtain ⟨next, moved, ran⟩ := Option.bind_eq_some_iff.mp ran
    obtain ⟨allots, fits⟩ := fits
    obtain ⟨s₁, a', d₁, follows, mentions, action, mirror₁⟩ := mirrorStep reachable reachable' moved allots mirror
    have step := stepCases follows.moved
    have reachable₁ := reachableStep reachable' follows.moved
    obtain ⟨s'', rest', d', ran', extends', fits', counterparts, mirror'⟩ :=
      ih (reachableStep reachable moved) reachable₁ ran (fits next moved) mirror₁
    rw [tunnelsMade moved, tunnelsMade follows.moved] at counterparts
    have mentions' := mentionsGrow step mentions
    have key : s''.keyOf d.service.tunnels.length a' = s₁.keyOf d.service.tunnels.length a' :=
      keyExtends extends' mentions' fun makes => extends'.tunnel _ (by rw [tunnelsMade follows.moved]; omega)
    have whole := extendsTrans follows.extends' (extendsBefore step extends')
    refine ⟨s'', a' :: rest', d', runStep follows.moved ran', whole, ⟨?_, fun e here => ?_⟩,
      ⟨?_, ?_, counterparts⟩, mirror'⟩
    · exact allotsExtends follows.moved (sortedExtends follows.extends' mirror.sorted' (knownReachable reachable'))
        follows.allots (knownReachable reachable₁) extends'
    · cases follows.moved.symm.trans here
      exact fits'
    · exact key.trans follows.key
    · exact (actionExtends extends' mentions').trans action

end TunnelRelay.Shared
