import TunnelRelay.Capability
import TunnelRelay.Profile

/-! The options of the command line: their names, and the values they take. Each
option may be given once, and a value that its option cannot take is refused. -/
namespace TunnelRelay

inductive ProtocolChoice where
  | rdp | ssh
  deriving DecidableEq, Repr

namespace ProtocolChoice

def name : ProtocolChoice → String
  | rdp => "rdp"
  | ssh => "ssh"

def all : List ProtocolChoice := [rdp, ssh]

def ofName? (text : String) : Option ProtocolChoice := all.find? fun p => p.name == text

def protocol : ProtocolChoice → Protocol
  | rdp => .rdp
  | ssh => .ssh

def defaultPort : ProtocolChoice → UInt16
  | rdp => Protocol.rdpPort
  | ssh => Protocol.sshPort

end ProtocolChoice

structure Options where
  config : Option String := none
  target : Locator
  protocol : ProtocolChoice := .rdp
  port : Option UInt16 := none
  localPort : Option UInt16 := none
  timeout : Option UInt64 := none
  logLevel : String := "info"
  deriving DecidableEq, Repr

namespace CommandLine

inductive OptionName where
  | config | target | protocol | port | localPort | timeout | logLevel
  deriving DecidableEq, Repr

inductive Flag where
  | help | version
  deriving DecidableEq, Repr

inductive Item where
  | option (name : OptionName)
  | flag (flag : Flag)
  deriving DecidableEq, Repr

namespace Item

def all : List Item :=
  [option .config, option .target, option .protocol, option .port, option .localPort,
    option .timeout, option .logLevel, flag .help, flag .version]

def long : Item → String
  | option .config => "config"
  | option .target => "instance"
  | option .protocol => "protocol"
  | option .port => "port"
  | option .localPort => "local-port"
  | option .timeout => "timeout"
  | option .logLevel => "log-level"
  | flag .help => "help"
  | flag .version => "version"

def short? : Item → Option Char
  | option .config => some 'c'
  | option .target => some 'i'
  | option .port => some 'p'
  | option .localPort => some 'l'
  | flag .help => some 'h'
  | flag .version => some 'V'
  | _ => none

def ofLong? (name : String) : Option Item := all.find? fun i => i.long == name

def ofShort? (letter : Char) : Option Item := all.find? fun i => i.short? == some letter

theorem ofLongLong (i : Item) : ofLong? i.long = some i := by
  rcases i with name | flag
  · cases name <;> decide +kernel
  · cases flag <;> decide +kernel

end Item

inductive UsageError where
  | unknown (word : String)
  | noValue (name : OptionName)
  | badValue (name : OptionName) (text : String)
  | repeated (name : OptionName)
  | flagWithValue (flag : Flag)
  | noTarget
  deriving DecidableEq, Repr

def UsageError.message : UsageError → String
  | unknown word => "unexpected argument '" ++ word ++ "'"
  | noValue name => "a value is required for '--" ++ (Item.option name).long ++ "'"
  | badValue name text => "invalid value '" ++ text ++ "' for '--" ++ (Item.option name).long ++ "'"
  | repeated name => "the argument '--" ++ (Item.option name).long ++ "' cannot be used multiple times"
  | flagWithValue flag => "unexpected value for '--" ++ (Item.flag flag).long ++ "'"
  | noTarget => "the argument '--" ++ (Item.option .target).long ++ "' was not provided"

def readCount (text : String) : Option Nat :=
  match text.toList with
  | '+' :: digits => Text.readDecimal digits
  | digits => Text.readDecimal digits

/- Minus zero is a port number too. -/
def readPort (text : String) : Option UInt16 :=
  let n := match text.toList with
    | '-' :: digits => (Text.readDecimal digits).filter (· = 0)
    | _ => readCount text
  n.bind fun n => if n < UInt16.size then some (UInt16.ofNat n) else none

def readSeconds (text : String) : Option UInt64 :=
  (readCount text).bind fun n => if n < UInt64.size then some (UInt64.ofNat n) else none

structure Given where
  config : Option String := none
  target : Option Locator := none
  protocol : Option ProtocolChoice := none
  port : Option UInt16 := none
  localPort : Option UInt16 := none
  timeout : Option UInt64 := none
  logLevel : Option String := none
  deriving DecidableEq, Repr

namespace Given

def once (name : OptionName) (text : String) (old value : Option α) : Except UsageError (Option α) :=
  match old, value with
  | some _, _ => .error (.repeated name)
  | none, none => .error (.badValue name text)
  | none, some v => .ok (some v)

def put (g : Given) (name : OptionName) (text : String) : Except UsageError Given := do
  match name with
  | .config => return { g with config := ← once name text g.config (if text.isEmpty then none else some text) }
  | .target => return { g with target := ← once name text g.target (Locator.parse? text) }
  | .protocol => return { g with protocol := ← once name text g.protocol (ProtocolChoice.ofName? text) }
  | .port => return { g with port := ← once name text g.port (readPort text) }
  | .localPort => return { g with localPort := ← once name text g.localPort (readPort text) }
  | .timeout => return { g with timeout := ← once name text g.timeout (readSeconds text) }
  | .logLevel => return { g with logLevel := ← once name text g.logLevel (some text) }

def options (g : Given) : Except UsageError Options :=
  match g.target with
  | none => .error .noTarget
  | some target => .ok {
      config := g.config, target, protocol := g.protocol.getD .rdp, port := g.port
      localPort := g.localPort, timeout := g.timeout, logLevel := g.logLevel.getD "info" }

end Given
end CommandLine
end TunnelRelay
