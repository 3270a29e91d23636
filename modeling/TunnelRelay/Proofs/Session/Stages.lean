import TunnelRelay.Proofs.Config.Histories
import TunnelRelay.Proofs.Routing
import TunnelRelay.Session

/-! The stages of a run before it asks for a transport. The settings must be there, which they are
unless a file was named that cannot be loaded; they must be valid; the target needs a port; and every
key of the direct targets must name an instance. The first stage that fails gives the problem, and a
run that passes them all has the plan that its options and its settings make. -/
namespace TunnelRelay.Session

def usualPath (m : Machine) : String := Config.defaultPath m.home m.configHome

inductive Applies (m : Machine) (o : Options) : Config → Prop where
  | named {path : String} {c : Config} (given : o.config = some path)
      (loads : Config.load m.files path Config.ofEntries = .ok c) : Applies m o c
  | usual {c : Config} (free : o.config = none)
      (loads : Config.load m.files (usualPath m) Config.ofEntries = .ok c) : Applies m o c
  | unusable {error : ConfigError} (free : o.config = none)
      (fails : Config.load m.files (usualPath m) Config.ofEntries = .error error) : Applies m o .default

def targetPort (o : Options) : UInt16 := o.port.getD o.protocol.defaultPort

inductive Stops (m : Machine) (o : Options) : Problem → Prop where
  | unavailable {path : String} {error : ConfigError} (given : o.config = some path)
      (fails : Config.load m.files path Config.ofEntries = .error error) : Stops m o (.unreadable path error)
  | invalid {c : Config} {error : ConfigError} (applies : Applies m o c) (wrong : c.checked = .error error) :
      Stops m o (.invalid error)
  | portless {c : Config} (applies : Applies m o c) (valid : c.checked = .ok ()) (zero : targetPort o = 0) :
      Stops m o (.profile (.invalidPort 0))
  | unread {c : Config} {key : String} (applies : Applies m o c) (valid : c.checked = .ok ())
      (port : targetPort o ≠ 0) (unread : Routes.Unread c.directTargets.entries key) :
      Stops m o (.targets (.invalidLocator key))

def planOf (o : Options) (c : Config) (port : targetPort o ≠ 0) (routes : Routes) : Plan where
  settings := .ofConfig c
  profile := ⟨o.protocol.protocol, .allowAll, o.target, targetPort o, preferred o, port⟩
  routes := routes
  timeout := (o.timeout.map Duration.ofSecs).getD c.connectTimeout

structure Planned (m : Machine) (o : Options) (c : Config) (p : Plan) : Prop where
  applies : Applies m o c
  valid : c.checked = .ok ()
  port : targetPort o ≠ 0
  readable : ∀ e ∈ c.directTargets.entries, Routes.Readable e.1
  routes : Routes.ofTargets c.directTargets = .ok p.routes
  made : p = planOf o c port p.routes

variable {m : Machine} {o : Options} {c c' : Config} {p : Plan} {problem : Problem}

theorem configNamed {path : String} (given : o.config = some path) :
    (config m o).2 = (Config.load m.files path Config.ofEntries).mapError (.unreadable path) := by
  simp only [config, given]

theorem configUsual (free : o.config = none) (loads : Config.load m.files (usualPath m) Config.ofEntries = .ok c) :
    (config m o).2 = .ok c := by
  have there : m.files.exists? (.ofString (usualPath m)) = true := by
    cases there : m.files.exists? (.ofString (usualPath m)) with
    | true => rfl
    | false =>
      cases (Histories.loadMissing.mpr there).symm.trans loads
  unfold usualPath at there loads
  simp only [config, free, there, loads, if_true]

theorem configUnusable {error : ConfigError} (free : o.config = none)
    (fails : Config.load m.files (usualPath m) Config.ofEntries = .error error) : (config m o).2 = .ok .default := by
  unfold usualPath at fails
  simp only [config, free, fails]
  split <;> rfl

theorem configOk : (config m o).2 = .ok c ↔ Applies m o c := by
  constructor
  · intro settled
    cases given : o.config with
    | some path =>
      rw [configNamed given] at settled
      exact .named given (Config.mapErrorOk.mp settled)
    | none =>
      cases loaded : Config.load m.files (usualPath m) Config.ofEntries with
      | ok found =>
        cases (configUsual given loaded).symm.trans settled
        exact .usual given loaded
      | error error =>
        cases (configUnusable given loaded).symm.trans settled
        exact .unusable given loaded
  · intro applies
    cases applies with
    | named given loads => rw [configNamed given, loads]; rfl
    | usual free loads => exact configUsual free loads
    | unusable free fails => exact configUnusable free fails

theorem configFails : (config m o).2 = .error problem ↔
    ∃ path error, o.config = some path ∧ Config.load m.files path Config.ofEntries = .error error ∧
      problem = .unreadable path error := by
  cases given : o.config with
  | some path =>
    rw [configNamed given, Config.mapErrorFails]
    constructor
    · intro ⟨error, fails, same⟩
      exact ⟨path, error, rfl, fails, same⟩
    · intro ⟨path', error, named, fails, same⟩
      cases named
      exact ⟨error, fails, same⟩
  | none =>
    obtain ⟨found, settled⟩ : ∃ found, (config m o).2 = .ok found := by
      cases loaded : Config.load m.files (usualPath m) Config.ofEntries with
      | ok found => exact ⟨found, configUsual given loaded⟩
      | error error => exact ⟨.default, configUnusable given loaded⟩
    simp [settled]

theorem appliesOne (first : Applies m o c) (second : Applies m o c') : c = c' :=
  Except.ok.inj ((configOk.mpr first).symm.trans (configOk.mpr second))

theorem planInvalid {error : ConfigError} (wrong : c.checked = .error error) : plan o c = .error (.invalid error) := by
  rw [plan, wrong]
  rfl

theorem makePortless (zero : targetPort o = 0) :
    Profile.make o.protocol.protocol .allowAll o.target (targetPort o) (preferred o) = .error (.invalidPort 0) := by
  rw [Profile.make, dif_pos zero, zero]

theorem makeProfile (port : targetPort o ≠ 0) :
    Profile.make o.protocol.protocol .allowAll o.target (targetPort o) (preferred o) =
      .ok ⟨o.protocol.protocol, .allowAll, o.target, targetPort o, preferred o, port⟩ := by
  rw [Profile.make, dif_neg port]

theorem planPortless (valid : c.checked = .ok ()) (zero : targetPort o = 0) :
    plan o c = .error (.profile (.invalidPort 0)) := by
  have portless := makePortless zero
  unfold targetPort at portless
  rw [plan, valid, portless]
  rfl

theorem planUnread (valid : c.checked = .ok ()) (port : targetPort o ≠ 0) {error : ProfileError}
    (unread : Routes.ofTargets c.directTargets = .error error) : plan o c = .error (.targets error) := by
  have profile := makeProfile port
  unfold targetPort at profile
  rw [plan, valid, profile, unread]
  rfl

theorem planMade (valid : c.checked = .ok ()) (port : targetPort o ≠ 0) {r : Routes}
    (routes : Routes.ofTargets c.directTargets = .ok r) : plan o c = .ok (planOf o c port r) := by
  have profile := makeProfile port
  unfold targetPort at profile
  rw [plan, valid, profile, routes]
  rfl

theorem planSource (applies : Applies m o c) :
    (∃ p, plan o c = .ok p ∧ Planned m o c p) ∨ ∃ problem, plan o c = .error problem ∧ Stops m o problem := by
  cases valid : c.checked with
  | error error => exact .inr ⟨_, planInvalid valid, .invalid applies valid⟩
  | ok =>
    by_cases port : targetPort o = 0
    · exact .inr ⟨_, planPortless valid port, .portless applies valid port⟩
    · rcases Routes.ofTargetsOutcome c.directTargets with ⟨r, routes, routed⟩ | ⟨key, unread, fails⟩
      · exact .inl ⟨_, planMade valid port routes, applies, valid, port, routed.readable, routes, rfl⟩
      · exact .inr ⟨_, planUnread valid port fails, .unread applies valid port unread⟩

theorem plannedMade (planned : Planned m o c p) : plan o c = .ok p := by
  rw [planMade planned.valid planned.port planned.routes]
  exact congrArg Except.ok planned.made.symm

theorem unreadFails {key : String} (unread : Routes.Unread c.directTargets.entries key) :
    Routes.ofTargets c.directTargets = .error (.invalidLocator key) := by
  rcases Routes.ofTargetsOutcome c.directTargets with ⟨r, -, routed⟩ | ⟨other, first, fails⟩
  · obtain ⟨e, mem, same⟩ := List.mem_map.mp unread.entry
    exact absurd (same ▸ routed.readable e mem) unread.unreadable
  · have least := first.smallest key unread.entry unread.unreadable
    have most := unread.smallest other first.entry first.unreadable
    rw [fails, String.le_antisymm (Text.bytesUpTo.mpr least) (Text.bytesUpTo.mpr most)]

theorem stopsFails (stops : Stops m o problem) : ((config m o).2 >>= plan o) = .error problem := by
  cases stops with
  | unavailable given fails => rw [configNamed given, fails]; rfl
  | invalid applies wrong => rw [configOk.mpr applies]; exact planInvalid wrong
  | portless applies valid zero => rw [configOk.mpr applies]; exact planPortless valid zero
  | unread applies valid port unread => rw [configOk.mpr applies]; exact planUnread valid port (unreadFails unread)

theorem plannedStarts (planned : Planned m o c p) : ((config m o).2 >>= plan o) = .ok p := by
  rw [configOk.mpr planned.applies]
  exact plannedMade planned

theorem stagesOutcome (m : Machine) (o : Options) : (∃ c p, Planned m o c p) ∨ ∃ problem, Stops m o problem := by
  cases settled : (config m o).2 with
  | error problem =>
    obtain ⟨path, error, given, fails, same⟩ := configFails.mp settled
    exact .inr ⟨_, .unavailable given fails⟩
  | ok c =>
    rcases planSource (configOk.mp settled) with ⟨p, -, planned⟩ | ⟨problem, -, stops⟩
    · exact .inl ⟨c, p, planned⟩
    · exact .inr ⟨problem, stops⟩

theorem plannedOne {p' : Plan} (first : Planned m o c p) (second : Planned m o c' p') : c = c' ∧ p = p' :=
  ⟨appliesOne first.applies second.applies, Except.ok.inj ((plannedStarts first).symm.trans (plannedStarts second))⟩

theorem plannedNever (planned : Planned m o c p) : ¬ Stops m o problem := by
  intro stops
  cases (plannedStarts planned).symm.trans (stopsFails stops)

theorem stopsOne {problem' : Problem} (first : Stops m o problem) (second : Stops m o problem') : problem = problem' :=
  Except.error.inj ((stopsFails first).symm.trans (stopsFails second))

end TunnelRelay.Session
