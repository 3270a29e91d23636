import TunnelRelay.Config.Decode
import TunnelRelay.Config.Encode
import TunnelRelay.FileSystem
import TunnelRelay.Toml.Document

/-! Settings in files. A text is read as a whole before any of its data is
looked at. Saving makes the text first, then the directories above the file,
then the file; a failure keeps the content of every file as it was. -/
namespace TunnelRelay

inductive ConfigError where
  | notFound (path : String)
  | invalid (reason : String)
  | malformed
  | data (error : Config.DataError)
  | unencodable (error : Config.EncodeError)
  deriving DecidableEq, Repr

def ConfigError.message : ConfigError → String
  | notFound path => "Config file not found: " ++ path
  | invalid reason => "Invalid config: " ++ reason
  | malformed => "TOML parse error"
  | data error => "TOML parse error: " ++ error.message
  | unencodable error => "TOML serialize error: " ++ error.message

def ConfigError.source : ConfigError → Option String
  | notFound _ | invalid _ => none
  | malformed => some "not a TOML document"
  | data error => some error.message
  | unencodable error => some error.message

namespace Config

def ofText (decode : Toml.Entries → Except DataError α) (text : String) : Except ConfigError α :=
  match Toml.parse text with
  | none => .error .malformed
  | some entries => (decode entries).mapError .data

def checked (c : Config) : Except ConfigError Unit :=
  match c.fault with
  | some fault => .error (.invalid fault.message)
  | none => .ok ()

def load (fs : FileSystem) (path : String) (decode : Toml.Entries → Except DataError α) : Except ConfigError α := do
  let p := FilePath.ofString path
  if !fs.exists? p then throw (.notFound path)
  let content ← (fs.read p).mapError fun e => .invalid ("Failed to read config: " ++ e.message)
  match String.fromUTF8? content with
  | none => throw (.invalid "Failed to read config: stream did not contain valid UTF-8")
  | some text => ofText decode text

def saveText (fs : FileSystem) (path text : String) : FileSystem × Except ConfigError Unit :=
  let p := FilePath.ofString path
  let (fs, made) := match p.parent with
    | some above => fs.makeTree above
    | none => (fs, .ok ())
  match made with
  | .error e => (fs, .error (.invalid ("Failed to create config dir: " ++ e.message)))
  | .ok () =>
      match fs.write p text.toUTF8 with
      | .ok fs => (fs, .ok ())
      | .error e => (fs, .error (.invalid ("Failed to write config: " ++ e.message)))

def save (fs : FileSystem) (path : String) (c : Config) : FileSystem × Except ConfigError Unit :=
  match c.encode with
  | .error e => (fs, .error (.unencodable e))
  | .ok text => saveText fs path text

def directory (home : String) (xdg : Option String) : String :=
  let base := match xdg with
    | some x => if x.startsWith "/" then x else FilePath.join home ".config"
    | none => FilePath.join home ".config"
  FilePath.join base "iap-tunnel"

def defaultPath (home : String) (xdg : Option String) : String :=
  FilePath.join (directory home xdg) "config.toml"

end Config
end TunnelRelay
