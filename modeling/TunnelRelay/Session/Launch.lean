import TunnelRelay.CommandLine.Transcript
import TunnelRelay.Pool.Making

/-! Runs of the program in any world outside. Its one request is made of an empty service; how binds
are answered, what is drawn, and what is seen while the request waits for its tunnel comes from
outside and may depend on the plan. A run whose request waits has come to nothing yet. On a network
where every connection is answered at once such a run is a session. -/
namespace TunnelRelay

structure Outside where
  around : Surroundings Endpoint
  interrupted : Bool := false
  wait : List Service.WaitStep

structure Launch where
  lines : List LogLine
  service : Service := {}
  outcome : Option (Except Problem Forwarding)

namespace Session

def asked (p : Plan) (interrupted : Bool) : Service :=
  Service.proceed interrupted 0 Service.steps (({} : Service).addRequest p.profile).1

def resume (interrupted : Bool) (s : Service) (told : Option (Except Failure TunnelId)) : Service :=
  match told.bind (s.created 0) with
  | some s => Service.proceed interrupted 0 Service.steps s
  | none => s

def request (p : Plan) (w : Outside) : Service :=
  let s := asked p w.interrupted
  match s.stage? 0 with
  | some (.creating _) =>
      let ((s, _), told) := w.wait.foldl (Service.waitStep p.timeout)
        (s.startMaking p.settings (target p) p.profile w.around, none)
      resume w.interrupted s told
  | _ => s

def answer (p : Plan) (s : Service) : Option (Except Problem Forwarding) :=
  match s.transport? 0, s.refusal? 0 with
  | some t, _ => (s.tunnels[t]?.bind (·.endpoint)).map fun endpoint => .ok ⟨endpoint, p.profile.instanceLocator⟩
  | none, some refusal => some (.error (.transport refusal))
  | none, none => none

def launch (m : Machine) (o : Options) (outside : Plan → Outside) : Launch :=
  let (lines, c) := config m o
  match c >>= plan o with
  | .error problem => { lines, outcome := some (.error problem) }
  | .ok p =>
      let service := request p (outside p)
      { lines := lines ++ warnings p, service, outcome := answer p service }

/- The wait for a connection that is answered at once. A tunnel whose connection fails is closed, and its
accept loop runs once more before the failure is told. -/
def connecting (answer : Except Failure Unit) : List Service.WaitStep :=
  [.look { probe := { connect := some answer } }, .outside .loop, .look {}]

def connection (m : Machine) (p : Plan) : Except Failure Unit :=
  match (Creation.bindFor p.settings p.profile (surroundings m)).outcome with
  | .error reason => .error reason
  | .ok held =>
      match obstacle m p held with
      | none => .ok ()
      | some reason => .error reason

def network (m : Machine) (p : Plan) : Outside where
  around := surroundings m
  wait := connecting (connection m p)

end Session

namespace CommandLine.Transcript

def ofLaunch (logRules : Option String) (o : Options) (l : Launch) : Option Transcript :=
  l.outcome.map fun outcome => (ofSession l.lines outcome).filtered (logRules.getD o.logLevel)

def within (m : Machine) (outside : Plan → Outside) (logRules : Option String) (words : List String) :
    Option Transcript :=
  match read words with
  | .error e => some (ofUsageError e)
  | .ok (.display flag) => some (ofFlag flag)
  | .ok (.forward options) => ofLaunch logRules options (Session.launch m options outside)

end CommandLine.Transcript
end TunnelRelay
