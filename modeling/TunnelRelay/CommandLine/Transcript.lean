import TunnelRelay.CommandLine.Reading
import TunnelRelay.Session

/-! Everything that a run of the program shows: its exit code, the two output
texts and the log. A run that forwards goes on until it is interrupted, which is
not a failure. On the help page every option has a line of its own, and the
descriptions start two columns behind the longest option. -/
namespace TunnelRelay.CommandLine

def programName : String := "iap-tunnel"
def programVersion : String := "0.1.0"

def versionLine : String := programName ++ " " ++ programVersion ++ "\n"

namespace Item

def valueName? : Item → Option String
  | option name => some (String.ofList ((option name).long.toList.map fun c => if c = '-' then '_' else c.toUpper))
  | flag _ => none

def summary : Item → String
  | option .config => "Path to configuration file"
  | option .target => "Target instance, as projects/\x7bproject\x7d/zones/\x7bzone\x7d/instances/\x7bname\x7d"
  | option .protocol => "Application protocol [default: " ++ ProtocolChoice.rdp.name ++
      "] [possible values: " ++ ", ".intercalate (ProtocolChoice.all.map ProtocolChoice.name) ++ "]"
  | option .port => "Target port (defaults to the protocol's port)"
  | option .localPort => "Preferred local port"
  | option .timeout => "Creation timeout in seconds (overrides config)"
  | option .logLevel => "Log level (error, warn, info, debug, trace) [default: info]"
  | flag .help => "Print help"
  | flag .version => "Print version"

def form (i : Item) : String :=
  "--" ++ i.long ++ match i.valueName? with
    | some value => " <" ++ value ++ ">"
    | none => ""

def shortForm (i : Item) : String :=
  match i.short? with
  | some letter => "-" ++ String.singleton letter ++ ", "
  | none => "    "

def width : Nat := (all.map fun i => i.form.length).foldl max 0

def helpLine (i : Item) : String :=
  "  " ++ i.shortForm ++ i.form ++ String.ofList (List.replicate (width - i.form.length + 2) ' ') ++ i.summary ++ "\n"

end Item

def usageLine : String :=
  "Usage: " ++ programName ++ " [OPTIONS] " ++ (Item.option .target).form ++ "\n"

def helpPage : String :=
  "Open a loopback tunnel to a cloud instance\n\n" ++ usageLine ++ "\nOptions:\n" ++
    String.join (Item.all.map Item.helpLine)

def component : String := "iap_tunnel"

structure Transcript where
  exitCode : UInt32
  output : String := ""
  errors : String := ""
  log : List LogLine := []
  forwarding : Option Forwarding := none

def UsageError.report (e : UsageError) : String :=
  "error: " ++ e.message ++ "\n\n" ++ usageLine ++ "\nFor more information, try '--help'.\n"

def ignoredRules (errors : List (String × LogRuleError)) : String :=
  String.join (errors.map fun e => "ignoring `" ++ e.1 ++ "`: " ++ e.2.message ++ "\n")

namespace Transcript

def ofUsageError (e : UsageError) : Transcript := { exitCode := 2, errors := e.report }

def ofFlag : Flag → Transcript
  | .help => { exitCode := 0, output := helpPage }
  | .version => { exitCode := 0, output := versionLine }

def ofSession (lines : List LogLine) : Except Problem Forwarding → Transcript
  | .error problem => { exitCode := 1, errors := problem.report, log := lines }
  | .ok f => { exitCode := 0, output := f.line, log := lines ++ [Session.interrupted, Session.finished], forwarding := some f }

def filtered (t : Transcript) (rules : String) : Transcript :=
  let (filter, ignored) := LogFilter.read rules
  { t with log := t.log.filter fun l => filter.allows component l.level, errors := ignoredRules ignored ++ t.errors }

def ofWords (m : Machine) (logRules : Option String) (words : List String) : Transcript :=
  match read words with
  | .error e => ofUsageError e
  | .ok (.display flag) => ofFlag flag
  | .ok (.forward options) =>
      let (lines, outcome) := Session.run m options
      (ofSession lines outcome).filtered (logRules.getD options.logLevel)

end Transcript
end TunnelRelay.CommandLine
