import Std.Async.Signal
import Std.Async.Timer
import TunnelRelay.CommandLine.Transcript
import TunnelRelay.Sockets

/-! The program. It reads the environment and the one file of settings that may
count, opens the tunnel that the session plans, and serves it until it is
interrupted. -/
namespace TunnelRelay.Program
open Std.Async

def filesAt (path : String) : IO FileSystem := do
  let p := FilePath.ofString path
  let above := match p.parent with
    | some dir => (({} : FileSystem).makeTree dir).1
    | none => {}
  match ← (IO.FS.readBinFile path).toBaseIO with
  | .ok content => return (above.write p content).toOption.getD above
  | .error error =>
      match Sockets.ioErrorOf error with
      | .os 2 => return {}
      | .os 21 => return (above.makeTree p).1
      | e => return { (above.write p ⟨#[]⟩).toOption.getD above with
          fault := fun call _ => if call = .read then some e else none }

def machineFor (options : Options) : IO Machine := do
  let home := (← IO.getEnv "HOME").getD "/"
  let configHome ← IO.getEnv "XDG_CONFIG_HOME"
  let seed ← IO.rand 0 1000000000
  return {
    files := ← filesAt (options.config.getD (Config.defaultPath home configHome)), home, configHome
    draw := fun drawing i => seed + (drawing * PortRange.drawLimit + i) * 7919 }

def log (filter : LogFilter) (lines : List LogLine) : IO Unit :=
  lines.forM fun l => if filter.allows CommandLine.component l.level then IO.println l.render else pure ()

abbrev Listener := Endpoint × TCP.Socket.Server

def bindNext (m : Machine) (p : Plan) : Nat → List (Except Failure Endpoint) → Option Listener → IO (Except Failure Listener)
  | 0, _, _ => return .error PortSearch.noFreePort
  | n + 1, answers, last => do
      let found := Session.searchSoFar m p answers
      match found.asked.drop answers.length with
      | e :: _ =>
          match ← Sockets.listenOn e with
          | .ok bound => bindNext m p n (answers ++ [.ok bound.1]) (some bound)
          | .error error => bindNext m p n (answers ++ [.error (.ofBind e error)]) last
      | [] =>
          match found.outcome, last with
          | .ok _, some bound => return .ok bound
          | .ok _, none => return .error PortSearch.noFreePort
          | .error reason, _ => return .error reason

def longestWait : Nat := 2147483648

def probe (p : Plan) (d : Destination) : Async Creation.Sight := do
  let tried : Async Creation.Sight := do
    try
      let socket ← Sockets.connectTo d
      socket.shutdown
      return { connect := some (.ok ()) }
    catch error => return { connect := some (.error (d.connectFailure (Sockets.ioErrorOf error))) }
  let wait := min longestWait ((p.timeout.totalNanos + 999999) / 1000000)
  Async.race tried (do
    let timer ← Sleep.mk (.ofNat wait)
    timer.wait
    return { due := true })

def openTunnel (m : Machine) (p : Plan) : IO (Except Failure (Listener × Destination)) := do
  match p.routes.destination p.profile.instanceLocator p.profile.port with
  | .error reason => return .error reason
  | .ok d =>
      match ← bindNext m p (p.settings.attempts + 1) [] none with
      | .error reason => return .error reason
      | .ok listener =>
          let bound : Creation := { stage := .bound listener.1 }
          let probed := bound.poll p.timeout (← (probe p d).block)
          match (probed.after p.timeout .loopEnded).result with
          | some (.error reason) => return .error reason
          | _ => return .ok (listener, d)

def forward (o : Options) : IO UInt32 := do
  let m ← machineFor o
  let (filter, ignored) := LogFilter.read ((← IO.getEnv "RUST_LOG").getD o.logLevel)
  IO.eprint (CommandLine.ignoredRules ignored)
  let (lines, c) := Session.config m o
  log filter lines
  match c >>= Session.plan o with
  | .error problem =>
      IO.eprint problem.report
      return 1
  | .ok p =>
      log filter (Session.warnings p)
      let interrupt ← (← Signal.Waiter.mk .sigint false).wait
      match ← openTunnel m p with
      | .error reason =>
          IO.eprint (Problem.transport (.ofFailure reason)).report
          return 1
      | .ok ((endpoint, server), d) =>
          IO.print (Forwarding.mk endpoint o.target).line
          (← IO.getStdout).flush
          let admission : Admission := ⟨p.settings.loopbackOnly, p.profile.policy.admits⟩
          let _ ← (Sockets.serve admission (max 1 p.settings.bufferSize) d server).toIO
          discard interrupt.block
          log filter [Session.interrupted, Session.finished]
          return 0

end TunnelRelay.Program

open TunnelRelay in
def main (words : List String) : IO UInt32 := do
  match CommandLine.read words with
  | .ok (.forward options) => Program.forward options
  | .ok (.display flag) =>
      IO.print (CommandLine.Transcript.ofFlag flag).output
      return 0
  | .error error =>
      IO.eprint error.report
      return 2
