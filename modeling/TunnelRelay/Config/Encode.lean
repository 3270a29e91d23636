import TunnelRelay.Config
import TunnelRelay.Locator
import TunnelRelay.Toml.Basic
import TunnelRelay.Toml.Written

/-! The saved form of settings. The timeout is saved in whole seconds. Numbers
that no TOML integer can hold cannot be saved. -/
namespace TunnelRelay.Config
open Toml Text

inductive EncodeError where
  | outOfRange
  deriving DecidableEq, Repr

def EncodeError.message : EncodeError → String
  | outOfRange => "out-of-range value for u64 type"

def field (name : String) (value : List Char) : List Char :=
  name.toList ++ " = ".toList ++ value ++ ['\n']

def booleanText (b : Bool) : List Char := (if b then "true" else "false").toList

def targetText (e : String × String) : List Char :=
  "[direct_targets.".toList ++ writeKey e.1 ++ "]\n".toList ++ field "host" (writeString e.2)

def targetsText (t : Targets) : List Char :=
  match t.entries with
  | [] => "[direct_targets]\n".toList
  | entries => ['\n'].intercalate (entries.map targetText)

def render (c : Config) : List Char :=
  field "connect_timeout" (decimal c.connectTimeout.secs.toNat) ++
    field "port_retry_attempts" (decimal c.portRetryAttempts.toNat) ++
    field "relay_buffer_size" (decimal c.relayBufferSize.toNat) ++
    field "loopback_only" (booleanText c.loopbackOnly) ++ "\n[ephemeral_ports]\n".toList ++
    field "first" (decimal c.ephemeralPorts.first.toNat) ++
    field "last" (decimal c.ephemeralPorts.last.toNat) ++ ['\n'] ++ targetsText c.directTargets

def encode (c : Config) : Except EncodeError String :=
  if fitsInteger c.connectTimeout.secs.toNat && fitsInteger c.relayBufferSize.toNat then
    .ok (String.ofList c.render)
  else .error .outOfRange

def encodeLocator (l : Locator) : String :=
  String.ofList (field "project" (writeString l.project) ++ field "zone" (writeString l.zone) ++
    field "name" (writeString l.name))

end TunnelRelay.Config
