import TunnelRelay.Proofs.Config.Saving
import TunnelRelay.Proofs.Session.Networks
import TunnelRelay.Proofs.Session.Stages

/-! Runs of the program, from the words of the command line to what is shown. A run forwards exactly if
every stage before the request passes and the request gets its transport; the first stage that fails
is what any other run fails with. In a world where every connection is answered at once a run is a
session, and shows the same. -/
namespace TunnelRelay.Session

variable {m : Machine} {o : Options} {c : Config} {p : Plan}

variable {outside : Plan → Outside} {problem : Problem}

theorem plannedPermitted (planned : Planned m o c p) : p.profile.isPermitted = true := by
  rw [planned.made]
  cases chosen : o.protocol <;>
    simp [planOf, Profile.isPermitted, ProtocolChoice.protocol, Protocol.rdp, Protocol.ssh, Policy.allowAll, chosen,
      planned.port]

theorem launchStops (stops : Stops m o problem) :
    launch m o outside = { lines := (config m o).1, outcome := some (.error problem) } := by
  have fails := stopsFails stops
  simp only [launch, fails]

theorem launchPlanned (planned : Planned m o c p) : launch m o outside =
    { lines := (config m o).1 ++ warnings p
      service := request p (outside p)
      outcome := answer p (request p (outside p)) } := by
  have starts := plannedStarts planned
  simp only [launch, starts]

theorem runStops (stops : Stops m o problem) : run m o = ((config m o).1, .error problem) := by
  have fails := stopsFails stops
  simp only [run, fails]

theorem runPlanned (planned : Planned m o c p) : run m o = ((config m o).1 ++ warnings p, forward m p) := by
  have starts := plannedStarts planned
  simp only [run, starts]

theorem launchNetwork (m : Machine) (o : Options) :
    (launch m o (network m)).lines = (run m o).1 ∧ (launch m o (network m)).outcome = some (run m o).2 := by
  rcases stagesOutcome m o with ⟨c, p, planned⟩ | ⟨problem, stops⟩
  · rw [launchPlanned planned, runPlanned planned]
    exact ⟨rfl, answerNetwork (plannedPermitted planned)⟩
  · rw [launchStops stops, runStops stops]
    exact ⟨rfl, rfl⟩

inductive Fails (m : Machine) (o : Options) (outside : Plan → Outside) : Problem → Prop where
  | stage {problem : Problem} (stops : Stops m o problem) : Fails m o outside problem
  | transport {c : Config} {p : Plan} {refusal : Refusal} (planned : Planned m o c p)
      (refuses : (request p (outside p)).refusal? 0 = some refusal) : Fails m o outside (.transport refusal)

structure Staged (m : Machine) (o : Options) (outside : Plan → Outside) (l : Launch) : Prop where
  forwards : (∃ f, l.outcome = some (.ok f)) ↔
    ∃ c p, Planned m o c p ∧ ((request p (outside p)).transport? 0).isSome = true
  fails : ∀ problem, l.outcome = some (.error problem) ↔ Fails m o outside problem
  released : ∀ problem, l.outcome = some (.error problem) → l.service.inUse = []
  ends : (∀ p, ∃ step ∈ (outside p).wait, step.due = true) → l.outcome.isSome = true
  placed : ∀ f, l.outcome = some (.ok f) → f.target = o.target ∧
    ∃ c p, Planned m o c p ∧ (Truthful (outside p).around.bind → Placed o c (outside p).around.bind f.endpoint)

theorem stopsStaged (stops : Stops m o problem) : Staged m o outside (launch m o outside) := by
  rw [launchStops stops]
  refine ⟨⟨nofun, fun ⟨c, p, planned, _⟩ => absurd stops (plannedNever planned)⟩,
    fun problem' => ⟨?_, fun fails => ?_⟩, fun _ _ => rfl, fun _ => rfl, nofun⟩
  · intro same
    cases same
    exact .stage stops
  · cases fails with
    | stage stops' => rw [stopsOne stops stops']
    | transport planned refuses => exact absurd stops (plannedNever planned)

theorem plannedOnly (planned : Planned m o c p) {P : Plan → Prop} : (∃ c p, Planned m o c p ∧ P p) ↔ P p := by
  constructor
  · intro ⟨c', p', other, holds⟩
    exact (plannedOne planned other).2 ▸ holds
  · intro holds
    exact ⟨c, p, planned, holds⟩

theorem plannedFails (planned : Planned m o c p) : Fails m o outside problem ↔
    ∃ refusal, (request p (outside p)).refusal? 0 = some refusal ∧ problem = .transport refusal := by
  constructor
  · intro fails
    cases fails with
    | stage stops => exact absurd stops (plannedNever planned)
    | transport other refuses =>
      cases (plannedOne planned other).2
      exact ⟨_, refuses, rfl⟩
  · intro ⟨refusal, refuses, same⟩
    exact same ▸ .transport planned refuses

theorem plannedStaged (planned : Planned m o c p) : Staged m o outside (launch m o outside) := by
  have comes := requestComes (plannedPermitted planned) (outside p)
  rw [launchPlanned planned]
  refine ⟨?forwards, fun problem => ?fails, fun problem failed => ?released, fun due => ?ends, fun f forwards => ?placed⟩
  case forwards =>
    rw [plannedOnly planned]
    cases comes with
    | waits unanswered ungranted _ _ => simp [unanswered, ungranted]
    | refused fails ungranted _ _ => simp [fails, ungranted]
    | granted forwards grants _ _ => simp [forwards, grants]
  case fails =>
    rw [plannedFails planned]
    cases comes with
    | waits unanswered _ unrefused _ => simp [unanswered, unrefused]
    | refused fails _ refuses _ => simp [fails, refuses, eq_comm]
    | granted forwards _ unrefused _ => simp [forwards, unrefused]
  case released =>
    cases comes with
    | waits unanswered _ _ _ => cases unanswered.symm.trans failed
    | refused _ _ _ inUse => exact inUse
    | granted forwards _ _ _ => cases forwards.symm.trans failed
  case ends =>
    cases comes with
    | waits _ _ _ undue =>
      obtain ⟨step, mem, late⟩ := due p
      cases (undue step mem).symm.trans late
    | refused fails _ _ _ => simp [fails]
    | granted forwards _ _ _ => simp [forwards]
  case placed =>
    cases comes with
    | waits unanswered _ _ _ => cases unanswered.symm.trans forwards
    | refused fails _ _ _ => cases fails.symm.trans forwards
    | granted forwards' _ _ bound =>
      cases forwards'.symm.trans forwards
      refine ⟨by rw [planned.made]; rfl, c, p, planned, fun truthful => boundPlaced truthful ?_⟩
      rw [planned.made] at bound ⊢
      exact bound

theorem launchStaged (m : Machine) (o : Options) (outside : Plan → Outside) : Staged m o outside (launch m o outside) := by
  rcases stagesOutcome m o with ⟨c, p, planned⟩ | ⟨problem, stops⟩
  · exact plannedStaged planned
  · exact stopsStaged stops

open CommandLine (Transcript)

def ignored (rules : Option String) (o : Options) : String :=
  CommandLine.ignoredRules (LogFilter.read (rules.getD o.logLevel)).2

inductive Shows (rules : Option String) (o : Options) : Option (Except Problem Forwarding) → Option Transcript → Prop where
  | waits : Shows rules o none none
  | forwards {f : Forwarding} {t : Transcript} (exit : t.exitCode = 0) (prints : t.output = f.line)
      (errors : t.errors = ignored rules o) (forwarding : t.forwarding = some f) :
      Shows rules o (some (.ok f)) (some t)
  | fails {problem : Problem} {t : Transcript} (exit : t.exitCode = 1) (prints : t.output = "")
      (errors : t.errors = ignored rules o ++ problem.report) (forwarding : t.forwarding = none) :
      Shows rules o (some (.error problem)) (some t)

theorem launchShows (rules : Option String) (o : Options) (l : Launch) :
    Shows rules o l.outcome (Transcript.ofLaunch rules o l) := by
  unfold Transcript.ofLaunch
  cases l.outcome with
  | none => exact .waits
  | some outcome =>
    cases outcome with
    | ok f => exact .forwards rfl rfl (String.append_empty) rfl
    | error problem => exact .fails rfl rfl rfl rfl

theorem lineFilled (f : Forwarding) : f.line ≠ "" := by
  intro empty
  have size := congrArg String.length empty
  simp [Forwarding.line] at size

theorem showsLine {rules : Option String} {outcome : Option (Except Problem Forwarding)} {t : Transcript}
    (shows' : Shows rules o outcome (some t)) :
    (∃ f : Forwarding, t.output = f.line) ↔ ∃ f, outcome = some (.ok f) := by
  cases shows' with
  | @forwards f _ exit prints errors forwarding => exact ⟨fun _ => ⟨f, rfl⟩, fun _ => ⟨f, prints⟩⟩
  | fails exit prints errors forwarding =>
    refine ⟨fun ⟨f, line⟩ => absurd (line.symm.trans prints) (lineFilled f), nofun⟩

def silent (t : Transcript) : Transcript := { t with log := [] }

theorem silentSession (rules : String) (lines lines' : List LogLine) (outcome : Except Problem Forwarding) :
    silent ((Transcript.ofSession lines outcome).filtered rules) =
      silent ((Transcript.ofSession lines' outcome).filtered rules) := by
  cases outcome with
  | ok f => simp only [Transcript.ofSession, Transcript.filtered, silent]
  | error problem => simp only [Transcript.ofSession, Transcript.filtered, silent]

theorem silentLaunch (rules : Option String) (o : Options) {l l' : Launch} (same : l.outcome = l'.outcome) :
    (Transcript.ofLaunch rules o l).map silent = (Transcript.ofLaunch rules o l').map silent := by
  simp only [Transcript.ofLaunch, same, Option.map_map]
  cases l'.outcome with
  | none => rfl
  | some outcome =>
    simp only [Option.map_some, Function.comp_apply]
    exact congrArg some (silentSession ..)

theorem withinNetwork (m : Machine) (rules : Option String) (words : List String) :
    Transcript.within m (network m) rules words = some (Transcript.ofWords m rules words) := by
  unfold Transcript.within Transcript.ofWords
  cases CommandLine.read words with
  | error e => rfl
  | ok command =>
    cases command with
    | display flag => rfl
    | forward o =>
      obtain ⟨lines, outcome⟩ := launchNetwork m o
      simp only [Transcript.ofLaunch, lines, outcome]
      rfl

structure Alike (o : Options) (rules : Option String) (words : List String) (m m' : Machine) : Prop where
  outcome : ∀ outside, (launch m o outside).outcome = (launch m' o outside).outcome
  service : ∀ outside, (launch m o outside).service = (launch m' o outside).service
  shown : ∀ outside, (Transcript.within m outside rules words).map silent =
    (Transcript.within m' outside rules words).map silent
  session : silent (Transcript.ofWords m rules words) = silent (Transcript.ofWords m' rules words)

variable {m' : Machine} {rules : Option String} {words : List String}

theorem launchAlike (same : (config m o).2 = (config m' o).2) (outside : Plan → Outside) :
    (launch m o outside).outcome = (launch m' o outside).outcome ∧
      (launch m o outside).service = (launch m' o outside).service := by
  simp only [launch, same]
  split
  · exact ⟨rfl, rfl⟩
  · exact ⟨rfl, rfl⟩

theorem withinAlike (accepted : CommandLine.read words = .ok (.forward o)) (same : (config m o).2 = (config m' o).2)
    (outside : Plan → Outside) :
    (Transcript.within m outside rules words).map silent = (Transcript.within m' outside rules words).map silent := by
  simp only [Transcript.within, accepted]
  exact silentLaunch rules o (launchAlike same outside).1

theorem filesAlike (accepted : CommandLine.read words = .ok (.forward o)) {files : FileSystem}
    (same : (config m o).2 = (config { m with files } o).2) : Alike o rules words m { m with files } := by
  refine ⟨fun outside => (launchAlike same outside).1, fun outside => (launchAlike same outside).2,
    withinAlike accepted same, ?_⟩
  have shown : (Transcript.within m (network m) rules words).map silent =
      (Transcript.within { m with files } (network m) rules words).map silent := withinAlike accepted same (network m)
  rw [withinNetwork, show network m = network { m with files } from rfl, withinNetwork] at shown
  exact Option.some.inj shown

theorem usualSkipped (accepted : CommandLine.read words = .ok (.forward o)) (free : o.config = none) {error : ConfigError}
    (fails : Config.load m.files (usualPath m) Config.ofEntries = .error error) {files : FileSystem}
    (missing : files.exists? (.ofString (usualPath m)) = false) : Alike o rules words m { m with files } := by
  have gone : Config.load files (usualPath m) Config.ofEntries = .error (.notFound (usualPath m)) :=
    Histories.loadMissing.mpr missing
  have none' : (config { m with files } o).2 = .ok .default := configUnusable free gone
  exact filesAlike accepted ((configUnusable free fails).trans none'.symm)

structure Networked (m : Machine) (o : Options) (rules : Option String) (words : List String) : Prop where
  session : Transcript.within m (network m) rules words = some (Transcript.ofWords m rules words)
  reaches : ∀ c p, Planned m o c p →
    (((request p (network m p)).transport? 0).isSome = true ↔ ∃ e, Reached m p e)
  truthful : ∀ p, Truthful (network m p).around.bind

/- A run with arguments that are accepted, in any world outside and on the network of the machine. It
forwards exactly if all stages pass and the request gets a transport; otherwise the first stage that fails
is what it fails with, and nothing is listened on. Where it forwards from comes from the options or else
from the settings. A usual file that cannot be loaded is as good as none, one that was named ends the run. -/
theorem stagesInOrder {words : List String} {o : Options} (accepted : CommandLine.read words = .ok (.forward o))
    (m : Machine) (rules : Option String) (outside : Plan → Outside) :
    Staged m o outside (launch m o outside) ∧
      Shows rules o (launch m o outside).outcome (Transcript.within m outside rules words) ∧
      (∀ t, Transcript.within m outside rules words = some t →
        ((∃ f : Forwarding, t.output = f.line) ↔
          ∃ c p, Planned m o c p ∧ ((request p (outside p)).transport? 0).isSome = true)) ∧
      (∀ path error, o.config = some path → Config.load m.files path Config.ofEntries = .error error →
        launch m o outside = { lines := [], outcome := some (.error (.unreadable path error)) }) ∧
      (∀ error, o.config = none → Config.load m.files (usualPath m) Config.ofEntries = .error error →
        ∀ files : FileSystem, files.exists? (.ofString (usualPath m)) = false →
          Alike o rules words m { m with files }) ∧
      Networked m o rules words := by
  have staged := launchStaged m o outside
  have shows' : Shows rules o (launch m o outside).outcome (Transcript.within m outside rules words) := by
    rw [Transcript.within, accepted]
    exact launchShows rules o (launch m o outside)
  refine ⟨staged, shows', fun t shown => ?line, fun path error given fails => ?named,
    fun error free fails files missing => ?usual, withinNetwork m rules words,
    fun c p planned => networkGrants (plannedPermitted planned), fun p => networkTruthful m⟩
  case line =>
    rw [shown] at shows'
    exact (showsLine shows').trans staged.forwards
  case named =>
    rw [launchStops (.unavailable given fails)]
    simp only [config, given]
  case usual => exact usualSkipped accepted free fails missing

def single : Config where
  portRetryAttempts := 2
  ephemeralPorts := ⟨50000, 50000⟩
  loopbackOnly := false
  directTargets := .ofList [("projects/p/zones/z/instances/a", "localhost")]

def desk : Machine where
  files := (Config.save {} "/c.toml" single).1
  home := "/"
  network := { connected := true, taken := [(.v4 .localhost, 8080), (.v4 .localhost, 3389)] }

def deskWords : List String := ["-c", "/c.toml", "-i", "projects/p/zones/z/instances/a", "-l", "8080"]

def deskOptions : Options where
  config := some "/c.toml"
  target := ⟨"p", "z", "a"⟩
  localPort := some 8080

def deskRoutes : Routes := ⟨[(⟨"p", "z", "a"⟩, "localhost")]⟩

theorem deskPort : targetPort deskOptions ≠ 0 := by decide

def deskPlan : Plan := planOf deskOptions single deskPort deskRoutes

theorem deskLoads : Config.load desk.files "/c.toml" Config.ofEntries = .ok single := by
  have saveable : single.Saveable := by unfold Config.Saveable; decide
  have saved : Config.save {} "/c.toml" single = (desk.files, .ok ()) :=
    Prod.ext rfl ((Config.saveOutcome {} "/c.toml" single).mpr ⟨saveable, rfl⟩)
  exact Config.saveLoads saved fun _ => rfl

theorem deskPlanned : Planned desk deskOptions single deskPlan := by
  have read : Locator.read "projects/p/zones/z/instances/a" = .ok ⟨"p", "z", "a"⟩ := by decide +kernel
  have entries : single.directTargets.entries = [("projects/p/zones/z/instances/a", "localhost")] := rfl
  refine ⟨.named rfl deskLoads, rfl, deskPort, fun e mem => ?_, ?_, rfl⟩
  · rw [entries, List.mem_singleton] at mem
    exact mem ▸ ⟨_, read⟩
  · simp only [Routes.ofTargets, entries, List.foldlM_cons, Routes.addTarget, read]
    rfl

theorem deskCreated : (create desk deskPlan).result = some (.ok (.v4 .localhost 50000)) := by
  decide +kernel

theorem stagesInOrderNextPort :
    CommandLine.read deskWords = .ok (.forward deskOptions) ∧
      Staged desk deskOptions (network desk) (launch desk deskOptions (network desk)) ∧
      (∃ c p, Planned desk deskOptions c p ∧ ((request p (network desk p)).transport? 0).isSome = true) ∧
      (Transcript.ofWords desk none deskWords).exitCode = 0 ∧
      (Transcript.ofWords desk none deskWords).output =
        "Forwarding 127.0.0.1:50000 -> projects/p/zones/z/instances/a\n" := by
  have accepted : CommandLine.read deskWords = .ok (.forward deskOptions) := by decide +kernel
  obtain ⟨staged, shows', -, -, -, networked⟩ := stagesInOrder accepted desk none (network desk)
  have outcome : (launch desk deskOptions (network desk)).outcome =
      some (.ok ⟨.v4 .localhost 50000, ⟨"p", "z", "a"⟩⟩) := by
    rw [(launchNetwork desk deskOptions).2, runPlanned deskPlanned]
    exact congrArg some (forwardReady deskCreated)
  rw [networked.session, outcome] at shows'
  refine ⟨accepted, staged, staged.forwards.mp ⟨_, outcome⟩, ?_⟩
  generalize Transcript.ofWords desk none deskWords = t at shows'
  cases shows' with
  | forwards exit prints errors forwarding => exact ⟨exit, prints.trans (by decide +kernel)⟩

end TunnelRelay.Session
