import Mathlib.Data.Finset.Card
import TunnelRelay.Proofs.Config.Targets
import TunnelRelay.Proofs.Locator
import TunnelRelay.Proofs.Text.ByteOrder
import TunnelRelay.Routing

/-! The table of direct targets against the settings it is made of. The entries are put in by
ascending keys, so that of the keys for one instance the greatest decides its host, and of the keys
that name none the smallest is reported. -/
namespace TunnelRelay.Routes
open Config (bindOk)
open Text (bytes bytesUpTo)

def Readable (key : String) : Prop := ∃ l, Locator.read key = .ok l

structure Decides (entries : List (String × String)) (l : Locator) (e : String × String) : Prop where
  entry : e ∈ entries
  names : Locator.read e.1 = .ok l
  greatest : ∀ other ∈ entries, Locator.read other.1 = .ok l → bytes other.1 ≤ bytes e.1

structure Unread (entries : List (String × String)) (key : String) : Prop where
  entry : key ∈ entries.map Prod.fst
  unreadable : ¬ Readable key
  smallest : ∀ other ∈ entries.map Prod.fst, ¬ Readable other → bytes key ≤ bytes other

def named (entries : List (String × String)) : List Locator := entries.filterMap fun e => Locator.parse? e.1

variable {entries done rest : List (String × String)} {l : Locator} {r r' : Routes} {e f : String × String}
  {error : ProfileError}

theorem namedBy : l ∈ named entries ↔ ∃ e ∈ entries, Locator.read e.1 = .ok l := by
  simp only [named, List.mem_filterMap, Locator.readSome]

theorem decidesOne (apart : (entries.map Prod.fst).Nodup) (one : Decides entries l e) (other : Decides entries l f) :
    e = f :=
  List.inj_on_of_nodup_map apart one.entry other.entry
    (String.le_antisymm (bytesUpTo.mpr (other.greatest e one.entry one.names))
      (bytesUpTo.mpr (one.greatest f other.entry other.names)))

theorem insertHostLookup (l m : Locator) (host : String) (hosts : List (Locator × String)) :
    (insertHost l host hosts).lookup m = if m = l then some host else hosts.lookup m := by
  have put (k : Locator) (h : String) (others : List (Locator × String)) :
      ((k, h) :: others).lookup m = if m = k then some h else others.lookup m := by
    rw [List.lookup_cons]
    split <;> simp_all
  induction hosts with
  | nil => exact put l host []
  | cons head rest ih =>
    obtain ⟨k, h⟩ := head
    unfold insertHost
    split
    · rename_i same
      rw [put, put, same]
      split <;> rfl
    · rename_i apart
      rw [put, put, ih]
      by_cases here : m = k
      · rw [if_pos here, if_pos here, if_neg (here ▸ apart)]
      · rw [if_neg here, if_neg here]

theorem insertHostKnown (l m : Locator) (host : String) (hosts : List (Locator × String)) :
    m ∈ (insertHost l host hosts).map Prod.fst ↔ m = l ∨ m ∈ hosts.map Prod.fst := by
  induction hosts with
  | nil => simp [insertHost]
  | cons head rest ih =>
    obtain ⟨k, h⟩ := head
    unfold insertHost
    split
    · rename_i same
      simp [same]
    · rw [List.map_cons, List.mem_cons, ih, List.map_cons, List.mem_cons, or_left_comm]

theorem insertHostApart (l : Locator) (host : String) {hosts : List (Locator × String)}
    (apart : (hosts.map Prod.fst).Nodup) : ((insertHost l host hosts).map Prod.fst).Nodup := by
  induction hosts with
  | nil => simp [insertHost]
  | cons head rest ih =>
    obtain ⟨k, h⟩ := head
    obtain ⟨fresh, apart⟩ := List.nodup_cons.mp apart
    unfold insertHost
    split
    · rename_i same
      exact List.nodup_cons.mpr ⟨same ▸ fresh, apart⟩
    · rename_i other
      refine List.nodup_cons.mpr ⟨fun mem => ?_, ih apart⟩
      rcases (insertHostKnown l k host rest).mp mem with same | later
      · exact other same
      · exact fresh later

structure Routed (done : List (String × String)) (r : Routes) : Prop where
  readable : ∀ e ∈ done, Readable e.1
  apart : (r.hosts.map Prod.fst).Nodup
  known : ∀ l, l ∈ r.hosts.map Prod.fst ↔ l ∈ named done
  decided : ∀ l host, r.hosts.lookup l = some host → ∃ e, Decides done l e ∧ e.2 = host

theorem routedNone : Routed [] {} :=
  ⟨nofun, List.nodup_nil, fun _ => Iff.rfl, nofun⟩

theorem addTargetOk : r.addTarget e = .ok r' ↔ ∃ l, Locator.read e.1 = .ok l ∧ r.insert l e.2 = r' := by
  rw [addTarget, bindOk]
  simp [pure, Except.pure]

theorem routedNext (routed : Routed done r) (after : ∀ e' ∈ done, e'.1 < e.1) (added : r.addTarget e = .ok r') :
    Routed (done ++ [e]) r' := by
  obtain ⟨l, names, rfl⟩ := addTargetOk.mp added
  have joined : named (done ++ [e]) = named done ++ [l] := by
    simp [named, Locator.readSome.mp names]
  refine ⟨?_, ?_, ?_, ?_⟩
  · intro f mem
    rcases List.mem_append.mp mem with before | here
    · exact routed.readable f before
    · exact List.mem_singleton.mp here ▸ ⟨l, names⟩
  · exact insertHostApart l e.2 routed.apart
  · intro m
    rw [insert, insertHostKnown, joined, List.mem_append, List.mem_singleton, ← routed.known, or_comm]
  · intro m host found
    rw [insert, insertHostLookup] at found
    split at found
    · rename_i here
      subst here
      cases found
      refine ⟨e, ⟨by simp, names, fun other mem named => ?_⟩, rfl⟩
      rcases List.mem_append.mp mem with before | here
      · exact bytesUpTo.mp (le_of_lt (after other before))
      · exact List.mem_singleton.mp here ▸ List.le_refl _
    · rename_i apart
      obtain ⟨f, decides, same⟩ := routed.decided m host found
      refine ⟨f, ⟨List.mem_append_left _ decides.entry, decides.names, fun other mem named => ?_⟩, same⟩
      rcases List.mem_append.mp mem with before | here
      · exact decides.greatest other before named
      · cases List.mem_singleton.mp here
        exact absurd (Except.ok.inj (named.symm.trans names)) apart

theorem addTargetUnread (failed : r.addTarget e = .error error) : ¬ Readable e.1 ∧ error = .invalidLocator e.1 := by
  rcases Locator.readOtherwise e.1 with ⟨l, names⟩ | unreadable
  · simp [addTarget, names, bind, Except.bind, pure, Except.pure] at failed
  · simp only [addTarget, unreadable, bind, Except.bind, Except.error.injEq] at failed
    refine ⟨fun ⟨l, names⟩ => ?_, failed.symm⟩
    cases names.symm.trans unreadable

theorem routedAll (routed : Routed done r) (ordered : (done ++ rest).Pairwise fun a b => a.1 < b.1) :
    (∀ r', rest.foldlM addTarget r = .ok r' → Routed (done ++ rest) r') ∧
    ∀ error, rest.foldlM addTarget r = .error error →
      ∃ key, Unread (done ++ rest) key ∧ error = .invalidLocator key := by
  induction rest generalizing done r with
  | nil =>
    rw [List.append_nil]
    exact ⟨fun r' same => Except.ok.inj same ▸ routed, nofun⟩
  | cons e rest ih =>
    have after : ∀ f ∈ done, f.1 < e.1 := fun f mem => (List.pairwise_append.mp ordered).2.2 f mem e (by simp)
    rw [List.foldlM_cons]
    cases added : r.addTarget e with
    | error error =>
      obtain ⟨unreadable, named⟩ := addTargetUnread added
      refine ⟨nofun, fun error' same => ⟨e.1, ⟨by simp, unreadable, fun key mem unread => ?_⟩,
        Except.error.inj same ▸ named⟩⟩
      obtain ⟨f, inside, rfl⟩ := List.mem_map.mp mem
      rcases List.mem_append.mp inside with before | later
      · exact absurd (routed.readable f before) unread
      rcases List.mem_cons.mp later with rfl | later
      · exact List.le_refl _
      · have front := (List.pairwise_append.mp ordered).2.1
        exact bytesUpTo.mp (le_of_lt ((List.pairwise_cons.mp front).1 f later))
    | ok next =>
      rw [List.append_cons] at ordered ⊢
      exact ih (routedNext routed after added) ordered

theorem ofTargetsOutcome (t : Targets) :
    (∃ r, ofTargets t = .ok r ∧ Routed t.entries r) ∨
    ∃ key, Unread t.entries key ∧ ofTargets t = .error (.invalidLocator key) := by
  obtain ⟨made, failed⟩ := @routedAll [] t.entries {} routedNone t.ordered
  cases outcome : ofTargets t with
  | ok r => exact .inl ⟨r, rfl, made r outcome⟩
  | error error =>
    obtain ⟨key, unread, rfl⟩ := failed error outcome
    exact .inr ⟨key, unread, rfl⟩

theorem lookupKnown {hosts : List (Locator × String)} :
    (∃ host, hosts.lookup l = some host) ↔ l ∈ hosts.map Prod.fst := by
  rw [← not_iff_not, ← Option.isSome_iff_exists, Option.not_isSome_iff_eq_none, List.lookup_eq_none_iff]
  constructor
  · intro others mem
    obtain ⟨e, inside, rfl⟩ := List.mem_map.mp mem
    simpa using others e inside
  · intro unknown e mem
    exact bne_iff_ne.mpr fun same => unknown (same ▸ List.mem_map_of_mem mem)

variable {port : UInt16} {d : Destination}

theorem destinationOk : r.destination l port = .ok d ↔ ∃ host, r.hosts.lookup l = some host ∧ d = ⟨l, host, port⟩ := by
  unfold destination
  cases r.hosts.lookup l <;> simp [eq_comm]

theorem routedKnown (routed : Routed entries r) :
    (∃ host, r.hosts.lookup l = some host) ↔ ∃ e ∈ entries, Locator.read e.1 = .ok l := by
  rw [lookupKnown, routed.known, namedBy]

theorem routedSize (routed : Routed entries r) : r.size = (named entries).toFinset.card := by
  have same : (r.hosts.map Prod.fst).toFinset = (named entries).toFinset := by
    ext l
    rw [List.mem_toFinset, List.mem_toFinset, routed.known]
  rw [← same, List.toFinset_card_of_nodup routed.apart, List.length_map, size]

theorem routedReaches (routed : Routed entries r) :
    (∃ d, r.destination l port = .ok d) ↔ ∃ e ∈ entries, Locator.read e.1 = .ok l := by
  rw [← routedKnown routed]
  constructor
  · rintro ⟨d, reached⟩
    obtain ⟨host, found, -⟩ := destinationOk.mp reached
    exact ⟨host, found⟩
  · rintro ⟨host, found⟩
    exact ⟨⟨l, host, port⟩, destinationOk.mpr ⟨host, found, rfl⟩⟩

theorem routedDecides (routed : Routed entries r) (apart : (entries.map Prod.fst).Nodup) :
    r.destination l port = .ok d ↔ ∃ e, Decides entries l e ∧ d = ⟨l, e.2, port⟩ := by
  rw [destinationOk]
  constructor
  · rintro ⟨host, found, same⟩
    obtain ⟨e, decides, rfl⟩ := routed.decided l host found
    exact ⟨e, decides, same⟩
  · rintro ⟨e, decides, same⟩
    obtain ⟨host, found⟩ := (routedKnown routed).mpr ⟨e, decides.entry, decides.names⟩
    obtain ⟨f, other, rfl⟩ := routed.decided l host found
    exact ⟨f.2, found, decidesOne apart decides other ▸ same⟩

theorem routedUnknown (routed : Routed entries r) (unknown : ¬ ∃ e ∈ entries, Locator.read e.1 = .ok l) :
    r.destination l port = .error (.relayAccessDenied (l.render ++ " is not a known direct target")) := by
  have absent : r.hosts.lookup l = none := by
    by_contra present
    exact unknown ((routedKnown routed).mp (Option.ne_none_iff_exists'.mp present))
  rw [destination, absent]

theorem namedPlain (named : ∃ e ∈ entries, Locator.read e.1 = .ok l) : l.Plain := by
  obtain ⟨e, -, names⟩ := named
  exact (Locator.readFramed.mp names).1

/- The table that any targets lead to, if they do, and what it answers for any locator and port. -/
theorem routesOfTargets (t : Targets) :
    ((∃ error, ofTargets t = .error error) ↔ ∃ e ∈ t.entries, ¬ Readable e.1) ∧
    (∀ error, ofTargets t = .error error → ∃ key, Unread t.entries key ∧ error = .invalidLocator key) ∧
    ∀ r, ofTargets t = .ok r →
      r.size = (named t.entries).toFinset.card ∧
      (∀ l port, (∃ d, r.destination l port = .ok d) ↔ ∃ e ∈ t.entries, Locator.read e.1 = .ok l) ∧
      (∀ l port d, r.destination l port = .ok d ↔ ∃ e, Decides t.entries l e ∧ d = ⟨l, e.2, port⟩) ∧
      (∀ l port, ¬ (∃ e ∈ t.entries, Locator.read e.1 = .ok l) →
        r.destination l port = .error (.relayAccessDenied (l.render ++ " is not a known direct target"))) ∧
      (∀ l port, ¬ l.Plain →
        r.destination l port = .error (.relayAccessDenied (l.render ++ " is not a known direct target"))) ∧
      ∀ l, ∀ e ∈ t.entries, ∀ f ∈ t.entries, Locator.read e.1 = .ok l → Locator.read f.1 = .ok l →
        Locator.trimSlashes e.1.toList = Locator.trimSlashes f.1.toList := by
  rcases ofTargetsOutcome t with ⟨r, made, routed⟩ | ⟨key, unread, failed⟩
  · have readable : ¬ ∃ e ∈ t.entries, ¬ Readable e.1 := fun ⟨e, mem, unread⟩ => unread (routed.readable e mem)
    refine ⟨⟨fun ⟨error, failed⟩ => ?_, fun unread => absurd unread readable⟩, fun error failed => ?_,
      fun r' same => ?_⟩
    · cases made.symm.trans failed
    · cases made.symm.trans failed
    · cases made.symm.trans same
      exact ⟨routedSize routed, fun _ _ => routedReaches routed, fun _ _ _ => routedDecides routed t.keysApart,
        fun _ _ => routedUnknown routed, fun _ _ odd => routedUnknown routed fun named => odd (namedPlain named),
        fun _ _ _ _ _ first second => (Locator.readAlike first second).mp rfl⟩
  · obtain ⟨e, mem, rfl⟩ := List.mem_map.mp unread.entry
    refine ⟨⟨fun _ => ⟨e, mem, unread.unreadable⟩, fun _ => ⟨_, failed⟩⟩, fun error failed' => ?_, fun r made => ?_⟩
    · cases failed.symm.trans failed'
      exact ⟨e.1, unread, rfl⟩
    · cases failed.symm.trans made

def twice : Targets := .ofList [("projects/p/zones/z/instances/a", "near"), ("/projects/p/zones/z/instances/a/", "far"),
  ("projects/p/zones/z/instances/b", "far")]

theorem routesOfTargetsTwice :
    ∃ r, ofTargets twice = .ok r ∧ r.size = 2 ∧
      r.destination ⟨"p", "z", "a"⟩ 22 = .ok ⟨⟨"p", "z", "a"⟩, "near", 22⟩ ∧
      r.destination ⟨"p", "z", "a/"⟩ 22 =
        .error (.relayAccessDenied "projects/p/zones/z/instances/a/ is not a known direct target") := by
  obtain ⟨fails, -, made⟩ := routesOfTargets twice
  have readable : ∀ e ∈ twice.entries, Readable e.1 := by
    have parsed : ∀ e ∈ twice.entries, (Locator.parse? e.1).isSome := by decide +kernel
    intro e mem
    obtain ⟨l, found⟩ := Option.isSome_iff_exists.mp (parsed e mem)
    exact ⟨l, Locator.readSome.mpr found⟩
  cases outcome : ofTargets twice with
  | error error =>
    obtain ⟨e, mem, unread⟩ := fails.mp ⟨error, outcome⟩
    exact absurd (readable e mem) unread
  | ok r =>
    obtain ⟨size, -, decides, -, odd, -⟩ := made r outcome
    refine ⟨r, rfl, ?_, ?_, ?_⟩
    · rw [size]
      decide +kernel
    · refine (decides _ _ _).mpr ⟨("projects/p/zones/z/instances/a", "near"), ⟨?_, ?_, ?_⟩, rfl⟩
      · decide +kernel
      · exact Locator.readSome.mpr (by decide +kernel)
      · have first : ∀ other ∈ twice.entries, Locator.parse? other.1 = some ⟨"p", "z", "a"⟩ →
            bytes other.1 ≤ bytes "projects/p/zones/z/instances/a" := by decide +kernel
        exact fun other mem names => first other mem (Locator.readSome.mp names)
    · exact odd ⟨"p", "z", "a/"⟩ 22 fun plain => plain.name.2 (by decide)

end TunnelRelay.Routes
