import TunnelRelay.Duration
import TunnelRelay.PortRange

/-! Settings of the program, their defaults, and which settings cannot make any
tunnel. Direct targets are kept by ascending key, each key once. -/
namespace TunnelRelay

structure Targets where
  entries : List (String × String)
  ordered : entries.Pairwise (fun a b => a.1 < b.1)
  deriving DecidableEq

namespace Targets

def empty : Targets := ⟨[], .nil⟩

def insertEntry (key host : String) : List (String × String) → List (String × String)
  | [] => [(key, host)]
  | (k, h) :: rest =>
      if key < k then (key, host) :: (k, h) :: rest
      else if k < key then (k, h) :: insertEntry key host rest
      else (key, host) :: rest

theorem memInsertEntry {key host : String} {e : String × String} {entries : List (String × String)}
    (inside : e ∈ insertEntry key host entries) : e = (key, host) ∨ e ∈ entries := by
  induction entries with
  | nil => exact .inl (by simpa [insertEntry] using inside)
  | cons head rest ih =>
    obtain ⟨k, h⟩ := head
    unfold insertEntry at inside
    split at inside
    · simpa using inside
    · split at inside
      · rcases List.mem_cons.mp inside with same | deeper
        · exact .inr (by simp [same])
        · exact (ih deeper).imp id (List.mem_cons_of_mem _)
      · exact (List.mem_cons.mp inside).imp id (List.mem_cons_of_mem _)

theorem insertEntryOrdered (key host : String) {entries : List (String × String)}
    (ordered : entries.Pairwise (fun a b => a.1 < b.1)) :
    (insertEntry key host entries).Pairwise (fun a b => a.1 < b.1) := by
  induction entries with
  | nil => simp [insertEntry]
  | cons head rest ih =>
    obtain ⟨k, h⟩ := head
    obtain ⟨above, tail⟩ := List.pairwise_cons.mp ordered
    unfold insertEntry
    split
    · rename_i before
      refine List.pairwise_cons.mpr ⟨fun e inside => ?_, ordered⟩
      rcases List.mem_cons.mp inside with same | deeper
      · simpa [same] using before
      · exact String.lt_trans before (above e deeper)
    · rename_i notBefore
      split
      · rename_i after
        refine List.pairwise_cons.mpr ⟨fun e inside => ?_, ih tail⟩
        rcases memInsertEntry inside with same | deeper
        · simpa [same] using after
        · exact above e deeper
      · rename_i notAfter
        have same : key = k := String.le_antisymm (String.not_lt.mp notAfter) (String.not_lt.mp notBefore)
        subst same
        exact List.pairwise_cons.mpr ⟨above, tail⟩

def insert (t : Targets) (key host : String) : Targets :=
  ⟨insertEntry key host t.entries, insertEntryOrdered key host t.ordered⟩

def ofList (entries : List (String × String)) : Targets :=
  entries.foldl (fun t e => t.insert e.1 e.2) empty

end Targets

structure Config where
  connectTimeout : Duration := .ofSecs 30
  portRetryAttempts : UInt32 := 5
  ephemeralPorts : PortRange := .dynamic
  relayBufferSize : UInt64 := 16384
  loopbackOnly : Bool := true
  directTargets : Targets := .empty
  deriving DecidableEq

inductive ConfigFault where
  | noAttempts
  | noBuffer
  | noPorts (range : PortRange)
  deriving DecidableEq, Repr

def ConfigFault.message : ConfigFault → String
  | noAttempts => "port_retry_attempts must be at least 1"
  | noBuffer => "relay_buffer_size must be non-zero"
  | noPorts range => "ephemeral port range " ++ toString range.first.toNat ++ "-" ++
      toString range.last.toNat ++ " is empty or includes port 0"

namespace Config

def default : Config := {}

def fault (c : Config) : Option ConfigFault :=
  if c.portRetryAttempts = 0 then some .noAttempts
  else if c.relayBufferSize = 0 then some .noBuffer
  else if c.ephemeralPorts.first = 0 || c.ephemeralPorts.isEmpty then some (.noPorts c.ephemeralPorts)
  else none

end Config
end TunnelRelay
