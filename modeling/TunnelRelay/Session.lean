import TunnelRelay.CommandLine.Options
import TunnelRelay.Config.Files
import TunnelRelay.Creation
import TunnelRelay.LogFilter
import TunnelRelay.Network

/-! One run of the program after its command line was read: the settings are
taken from a file or the defaults, checked, and joined with the options to a
plan; then one tunnel is created. The first stage that fails ends the run, and
until the last one nothing is listened on. -/
namespace TunnelRelay

inductive Problem where
  | unreadable (path : String) (error : ConfigError)
  | invalid (error : ConfigError)
  | profile (error : ProfileError)
  | targets (error : ProfileError)
  | transport (refusal : Refusal)

namespace Problem

def headline : Problem → String
  | unreadable path _ => "Failed to load config from " ++ Text.quoted path
  | invalid _ => "Invalid configuration"
  | profile error => error.message
  | targets _ => "Invalid direct_targets entry"
  | transport refusal => "See help topic '" ++ refusal.topic.id ++ "'"

def causes : Problem → List String
  | unreadable _ error | invalid error => error.message :: error.source.toList
  | profile _ => []
  | targets error => [error.message]
  | transport refusal =>
      refusal.message :: refusal.reason.message :: (refusal.reason.source.map IoError.message).toList

def indented (columns : Nat) (text : String) : String :=
  ("\n" ++ String.ofList (List.replicate columns ' ')).intercalate
    ((text.toList.splitOn '\n').map String.ofList)

def causeLines : List String → String
  | [] => ""
  | [cause] => "\n\nCaused by:\n    " ++ indented 4 cause
  | causes => "\n\nCaused by:" ++ String.join (causes.mapIdx fun i cause =>
      "\n    " ++ toString i ++ ": " ++ indented 7 cause)

def report (p : Problem) : String := "Error: " ++ p.headline ++ causeLines p.causes ++ "\n"

end Problem

structure Machine where
  files : FileSystem := {}
  home : String
  configHome : Option String := none
  network : Network := {}
  draw : Nat → Nat → Nat := fun drawing i => (drawing * 32 + i) * 7919 + 104729

structure Plan where
  settings : ListenSettings
  profile : Profile
  routes : Routes
  timeout : Duration

structure Forwarding where
  endpoint : Endpoint
  target : Locator
  deriving DecidableEq, Repr

def Forwarding.line (f : Forwarding) : String :=
  "Forwarding " ++ f.endpoint.render ++ " -> " ++ f.target.render ++ "\n"

namespace Session

def defaultsUsed : LogLine := ⟨.info, "Using default configuration"⟩

def defaultFileSkipped (path : String) (error : ConfigError) : LogLine :=
  ⟨.warn, "Failed to load config from " ++ Text.quoted path ++ ": " ++ error.message⟩

def noTargets : LogLine := ⟨.warn, "No direct targets configured - every relay will be denied"⟩
def interrupted : LogLine := ⟨.info, "Received Ctrl+C, shutting down..."⟩
def finished : LogLine := ⟨.info, "Tunnel shutdown complete"⟩

/- The settings. A file that was named has to be readable; the usual one need not be. -/
def config (m : Machine) (o : Options) : List LogLine × Except Problem Config :=
  match o.config with
  | some path => ([], (Config.load m.files path Config.ofEntries).mapError (.unreadable path))
  | none =>
      let path := Config.defaultPath m.home m.configHome
      if m.files.exists? (.ofString path) then
        match Config.load m.files path Config.ofEntries with
        | .ok c => ([], .ok c)
        | .error e => ([defaultFileSkipped path e], .ok .default)
      else ([defaultsUsed], .ok .default)

def preferred (o : Options) : Option Endpoint := o.localPort.map fun port => .v4 .localhost port

def plan (o : Options) (c : Config) : Except Problem Plan := do
  c.checked.mapError .invalid
  let profile ← (Profile.make o.protocol.protocol .allowAll o.target (o.port.getD o.protocol.defaultPort)
    (preferred o)).mapError .profile
  let routes ← (Routes.ofTargets c.directTargets).mapError .targets
  return ⟨.ofConfig c, profile, routes, (o.timeout.map Duration.ofSecs).getD c.connectTimeout⟩

def warnings (p : Plan) : List LogLine := if p.routes.size = 0 then [noTargets] else []

def target (p : Plan) (l : Locator) (port : UInt16) : Except Failure Unit :=
  (p.routes.destination l port).map fun _ => ()

def surroundings (m : Machine) : Surroundings Endpoint where
  bind _ e := (m.network.bind e).map Prod.fst
  draw := m.draw
  cancelled _ := false

/- The search for an endpoint as far as the binds before it were answered. If it
asks for one more than that, the last one is the next to bind. -/
def searchSoFar (m : Machine) (p : Plan) (answers : List (Except Failure Endpoint)) : Search Endpoint :=
  PortSearch.run p.settings p.profile.localEndpoint
    { bind := fun asked _ => answers[asked.length]?.getD (.error .cancelled), draw := m.draw, cancelled := fun _ => false }

def obstacle (m : Machine) (p : Plan) (held : Endpoint) : Option Failure :=
  match p.routes.destination p.profile.instanceLocator p.profile.port >>= (m.network.occupy held).reach with
  | .ok _ => none
  | .error reason => some reason

def tried (m : Machine) (p : Plan) (started : Creation) : Creation :=
  match started.stage with
  | .bound held =>
      match obstacle m p held with
      | none => started.poll p.timeout { connect := some (.ok ()) }
      | some reason => (started.poll p.timeout { connect := some (.error reason) }).after p.timeout .loopEnded
  | _ => started

def create (m : Machine) (p : Plan) : Creation :=
  tried m p (Creation.start p.settings (target p) p.profile (surroundings m))

theorem createEnds (m : Machine) (p : Plan) : (create m p).result.isSome := by
  unfold create tried
  rcases Creation.startBindsOrFails p.settings (target p) p.profile (surroundings m) with ⟨e, h⟩ | ⟨r, h⟩
  · simp only [h]
    split <;> simp [Creation.poll, Creation.Sight.event, Creation.after, Creation.Stage.after, Creation.result,
      Creation.Stage.result, h]
  · simp [h, Creation.result, Creation.Stage.result]

def forward (m : Machine) (p : Plan) : Except Problem Forwarding :=
  match (create m p).result.get (createEnds m p) with
  | .ok endpoint => .ok ⟨endpoint, p.profile.instanceLocator⟩
  | .error reason => .error (.transport (.ofFailure reason))

def run (m : Machine) (o : Options) : List LogLine × Except Problem Forwarding :=
  let (lines, c) := config m o
  match c >>= plan o with
  | .error problem => (lines, .error problem)
  | .ok p => (lines ++ warnings p, forward m p)

end Session
end TunnelRelay
