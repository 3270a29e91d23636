import TunnelRelay.Config
import TunnelRelay.Locator
import TunnelRelay.Text.Quoted
import TunnelRelay.Toml.Basic

/-! Data read from TOML values. Entries are read in the order of the document
and the first wrong one is reported; a field that is missing is reported after
them. A record may be an array of its fields in order, where surplus items are
ignored. Unknown keys are ignored. -/
namespace TunnelRelay.Config
open Toml

inductive Wanted where
  | u16 | u32 | u64 | usize | boolean | string | map
  | record (name : String) (fields : Nat)
  deriving DecidableEq, Repr

inductive Found where
  | integer (value : Int)
  | float (value : Text.Double)
  | boolean (value : Bool)
  | string (text : String)
  | sequence
  | map
  deriving DecidableEq, Repr

inductive DataError where
  | invalidType (found : Found) (wanted : Wanted)
  | invalidValue (value : Int) (wanted : Wanted)
  | invalidLength (length : Nat) (wanted : Wanted)
  | missingField (name : String)
  deriving DecidableEq, Repr

def Wanted.render : Wanted → String
  | u16 => "u16"
  | u32 => "u32"
  | u64 => "u64"
  | usize => "usize"
  | boolean => "a boolean"
  | string => "a string"
  | map => "a map"
  | record name _ => "struct " ++ name

def Wanted.renderElements : Wanted → String
  | record name fields =>
      "struct " ++ name ++ " with " ++ toString fields ++ (if fields = 1 then " element" else " elements")
  | other => other.render

def Found.render : Found → String
  | integer value => "integer `" ++ toString value ++ "`"
  | float value => "floating point `" ++ value.render ++ "`"
  | boolean value => "boolean `" ++ toString value ++ "`"
  | string text => "string " ++ Text.quoted text
  | sequence => "sequence"
  | map => "map"

def DataError.message : DataError → String
  | invalidType found wanted => "invalid type: " ++ found.render ++ ", expected " ++ wanted.render
  | invalidValue value wanted =>
      "invalid value: integer `" ++ toString value ++ "`, expected " ++ wanted.render
  | invalidLength length wanted =>
      "invalid length " ++ toString length ++ ", expected " ++ wanted.renderElements
  | missingField name => "missing field `" ++ name ++ "`"

def found : Value → Found
  | .string text => .string text
  | .integer value => .integer value
  | .float value => .float value
  | .boolean value => .boolean value
  | .moment _ => .map
  | .array _ => .sequence
  | .table _ => .map

abbrev Decoder (α : Type) := Value → Except DataError α

def wrong (v : Value) (wanted : Wanted) : Except DataError α := .error (.invalidType (found v) wanted)

def natural (bound : Nat) (wanted : Wanted) : Decoder Nat
  | .integer n => if 0 ≤ n && n < bound then .ok n.toNat else .error (.invalidValue n wanted)
  | v => wrong v wanted

def u16 : Decoder UInt16 := fun v => (natural UInt16.size .u16 v).map UInt16.ofNat
def u32 : Decoder UInt32 := fun v => (natural UInt32.size .u32 v).map UInt32.ofNat
def u64 : Decoder UInt64 := fun v => (natural UInt64.size .u64 v).map UInt64.ofNat
def usize : Decoder UInt64 := fun v => (natural UInt64.size .usize v).map UInt64.ofNat

def boolean : Decoder Bool
  | .boolean b => .ok b
  | v => wrong v .boolean

def string : Decoder String
  | .string s => .ok s
  | v => wrong v .string

def required (name : String) : Option α → Except DataError α
  | some a => .ok a
  | none => .error (.missingField name)

def element (items : List Value) (index : Nat) (wanted : Wanted) (decode : Decoder α) : Except DataError α :=
  match items[index]? with
  | some v => decode v
  | none => .error (.invalidLength index wanted)

structure PortsDraft where
  first : Option UInt16 := none
  last : Option UInt16 := none

def PortsDraft.entry (d : PortsDraft) (e : String × Value) : Except DataError PortsDraft :=
  if e.1 = "first" then do return { d with first := some (← u16 e.2) }
  else if e.1 = "last" then do return { d with last := some (← u16 e.2) }
  else .ok d

def portRange : Decoder PortRange
  | .table entries => do
      let d ← entries.foldlM PortsDraft.entry {}
      return ⟨← required "first" d.first, ← required "last" d.last⟩
  | .array items => do
      return ⟨← element items 0 (.record "PortRange" 2) u16, ← element items 1 (.record "PortRange" 2) u16⟩
  | .moment _ => .error (.missingField "first")
  | v => wrong v (.record "PortRange" 2)

def hostEntry (host : Option String) (e : String × Value) : Except DataError (Option String) :=
  if e.1 = "host" then (string e.2).map some else .ok host

def host : Decoder String
  | .table entries => do required "host" (← entries.foldlM hostEntry none)
  | .array items => element items 0 (.record "DirectTarget" 1) string
  | .moment _ => .error (.missingField "host")
  | v => wrong v (.record "DirectTarget" 1)

def targetEntry (t : Targets) (e : String × Value) : Except DataError Targets :=
  (host e.2).map fun h => t.insert e.1 h

/- A date in place of the map stands for a map with one entry, its text. -/
def targets : Decoder Targets
  | .table entries => entries.foldlM targetEntry .empty
  | .moment text => wrong (.string text) (.record "DirectTarget" 1)
  | v => wrong v .map

def entry (c : Config) (e : String × Value) : Except DataError Config :=
  if e.1 = "connect_timeout" then do return { c with connectTimeout := .ofSecs (← u64 e.2) }
  else if e.1 = "port_retry_attempts" then do return { c with portRetryAttempts := ← u32 e.2 }
  else if e.1 = "ephemeral_ports" then do return { c with ephemeralPorts := ← portRange e.2 }
  else if e.1 = "relay_buffer_size" then do return { c with relayBufferSize := ← usize e.2 }
  else if e.1 = "loopback_only" then do return { c with loopbackOnly := ← boolean e.2 }
  else if e.1 = "direct_targets" then do return { c with directTargets := ← targets e.2 }
  else .ok c

def ofEntries (entries : Entries) : Except DataError Config := entries.foldlM entry .default

structure LocatorDraft where
  project : Option String := none
  zone : Option String := none
  name : Option String := none

def LocatorDraft.entry (d : LocatorDraft) (e : String × Value) : Except DataError LocatorDraft :=
  if e.1 = "project" then do return { d with project := some (← string e.2) }
  else if e.1 = "zone" then do return { d with zone := some (← string e.2) }
  else if e.1 = "name" then do return { d with name := some (← string e.2) }
  else .ok d

def locator (entries : Entries) : Except DataError Locator := do
  let d ← entries.foldlM LocatorDraft.entry {}
  return ⟨← required "project" d.project, ← required "zone" d.zone, ← required "name" d.name⟩

end TunnelRelay.Config
