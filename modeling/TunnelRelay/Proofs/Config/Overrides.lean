import TunnelRelay.Proofs.Config.Saving
import TunnelRelay.Proofs.Config.Values

/-! Settings read from a document. The document overrides the defaults: a setting is what the value
under its key stands for, or the default if the key is missing, and there are settings just if every
value under a known key stands for one. So neither unknown keys nor the order of the keys change
what is read. -/
namespace TunnelRelay.Config
open Toml

structure Setting (entries : Entries) (key : String) (given : α → Value → Prop) (default a : α) : Prop where
  missing : entries.lookup key = none → a = default
  present : ∀ v, entries.lookup key = some v → given a v

structure Overrides (entries : Entries) (c : Config) : Prop where
  timeout : Setting entries "connect_timeout" (fun d v => d.nanos = 0 ∧ v = .integer d.secs.toNat)
    default.connectTimeout c.connectTimeout
  attempts : Setting entries "port_retry_attempts" (fun n v => v = .integer n.toNat)
    default.portRetryAttempts c.portRetryAttempts
  ports : Setting entries "ephemeral_ports" PortsGiven default.ephemeralPorts c.ephemeralPorts
  buffer : Setting entries "relay_buffer_size" (fun n v => v = .integer n.toNat)
    default.relayBufferSize c.relayBufferSize
  loopback : Setting entries "loopback_only" (fun b v => v = .boolean b) default.loopbackOnly c.loopbackOnly
  targets : Setting entries "direct_targets" TargetsGiven default.directTargets c.directTargets

structure Admissible (entries : Entries) : Prop where
  timeout : ∀ v, entries.lookup "connect_timeout" = some v → ∃ n : Nat, v = .integer n
  attempts : ∀ v, entries.lookup "port_retry_attempts" = some v → ∃ n : Nat, v = .integer n ∧ n < UInt32.size
  ports : ∀ v, entries.lookup "ephemeral_ports" = some v → ∃ p, PortsGiven p v
  buffer : ∀ v, entries.lookup "relay_buffer_size" = some v → ∃ n : Nat, v = .integer n
  loopback : ∀ v, entries.lookup "loopback_only" = some v → ∃ b, v = .boolean b
  targets : ∀ v, entries.lookup "direct_targets" = some v →
    ∃ rows, v = .table rows ∧ ∀ key w, rows.lookup key = some w → ∃ host, HostGiven host w

def settingKeys : List String :=
  ["connect_timeout", "port_retry_attempts", "ephemeral_ports", "relay_buffer_size", "loopback_only", "direct_targets"]

inductive Entered (c : Config) (k : String) (v : Value) : Config → Prop where
  | timeout (key : k = "connect_timeout") {secs : UInt64} (read : u64 v = .ok secs) :
      Entered c k v { c with connectTimeout := .ofSecs secs }
  | attempts (key : k = "port_retry_attempts") {n : UInt32} (read : u32 v = .ok n) :
      Entered c k v { c with portRetryAttempts := n }
  | ports (key : k = "ephemeral_ports") {p : PortRange} (read : portRange v = .ok p) :
      Entered c k v { c with ephemeralPorts := p }
  | buffer (key : k = "relay_buffer_size") {n : UInt64} (read : usize v = .ok n) :
      Entered c k v { c with relayBufferSize := n }
  | loopback (key : k = "loopback_only") {b : Bool} (read : boolean v = .ok b) :
      Entered c k v { c with loopbackOnly := b }
  | targets (key : k = "direct_targets") {t : Targets} (read : targets v = .ok t) :
      Entered c k v { c with directTargets := t }
  | unknown (key : k ∉ settingKeys) : Entered c k v c

theorem entryEntered {c c' : Config} {k : String} {v : Value} (done : entry c (k, v) = .ok c') : Entered c k v c' := by
  unfold entry at done
  dsimp only at done
  split at done
  · rename_i key
    obtain ⟨secs, read, rfl⟩ := buildOk done
    exact .timeout key read
  split at done
  · rename_i key
    obtain ⟨n, read, rfl⟩ := buildOk done
    exact .attempts key read
  split at done
  · rename_i key
    obtain ⟨p, read, rfl⟩ := buildOk done
    exact .ports key read
  split at done
  · rename_i key
    obtain ⟨n, read, rfl⟩ := buildOk done
    exact .buffer key read
  split at done
  · rename_i key
    obtain ⟨b, read, rfl⟩ := buildOk done
    exact .loopback key read
  split at done
  · rename_i key
    obtain ⟨t, read, rfl⟩ := buildOk done
    exact .targets key read
  · cases done
    exact .unknown (by simp [settingKeys, *])

theorem timeoutSets : Sets entry "connect_timeout" (fun v => (u64 v).map Duration.ofSecs) connectTimeout where
  here c v c' done := by
    cases entryEntered done <;> simp_all [settingKeys, Except.map]
  elsewhere c k v c' other done := by
    cases entryEntered done <;> simp_all

theorem attemptsSets : Sets entry "port_retry_attempts" u32 portRetryAttempts where
  here c v c' done := by
    cases entryEntered done <;> simp_all [settingKeys]
  elsewhere c k v c' other done := by
    cases entryEntered done <;> simp_all

theorem portsSets : Sets entry "ephemeral_ports" portRange ephemeralPorts where
  here c v c' done := by
    cases entryEntered done <;> simp_all [settingKeys]
  elsewhere c k v c' other done := by
    cases entryEntered done <;> simp_all

theorem bufferSets : Sets entry "relay_buffer_size" usize relayBufferSize where
  here c v c' done := by
    cases entryEntered done <;> simp_all [settingKeys]
  elsewhere c k v c' other done := by
    cases entryEntered done <;> simp_all

theorem loopbackSets : Sets entry "loopback_only" boolean loopbackOnly where
  here c v c' done := by
    cases entryEntered done <;> simp_all [settingKeys]
  elsewhere c k v c' other done := by
    cases entryEntered done <;> simp_all

theorem hostsSets : Sets entry "direct_targets" targets directTargets where
  here c v c' done := by
    cases entryEntered done <;> simp_all [settingKeys]
  elsewhere c k v c' other done := by
    cases entryEntered done <;> simp_all

structure Readable (k : String) (v : Value) : Prop where
  timeout : k = "connect_timeout" → ∃ secs, u64 v = .ok secs
  attempts : k = "port_retry_attempts" → ∃ n, u32 v = .ok n
  ports : k = "ephemeral_ports" → ∃ p, portRange v = .ok p
  buffer : k = "relay_buffer_size" → ∃ n, usize v = .ok n
  loopback : k = "loopback_only" → ∃ b, boolean v = .ok b
  targets : k = "direct_targets" → ∃ t, Config.targets v = .ok t

theorem entryReads (c : Config) (k : String) (v : Value) : (∃ c', entry c (k, v) = .ok c') ↔ Readable k v := by
  constructor
  · rintro ⟨c', done⟩
    cases entryEntered done <;> constructor <;> simp_all [settingKeys]
  · intro readable
    unfold entry
    dsimp only
    split
    · exact buildReads.mpr (readable.timeout (by assumption))
    split
    · exact buildReads.mpr (readable.attempts (by assumption))
    split
    · exact buildReads.mpr (readable.ports (by assumption))
    split
    · exact buildReads.mpr (readable.buffer (by assumption))
    split
    · exact buildReads.mpr (readable.loopback (by assumption))
    split
    · exact buildReads.mpr (readable.targets (by assumption))
    · exact ⟨c, rfl⟩

theorem settingUnique {α : Type} {entries : Entries} {key : String} {given : α → Value → Prop} {a b d : α}
    (first : Setting entries key given d a) (second : Setting entries key given d b) {read : Decoder α}
    (reads : ∀ v, entries.lookup key = some v → ∀ a, read v = .ok a ↔ given a v) : a = b := by
  cases found : entries.lookup key with
  | none => rw [first.missing found, second.missing found]
  | some v =>
    have here := (reads v found a).mpr (first.present v found)
    exact Except.ok.inj (here.symm.trans ((reads v found b).mpr (second.present v found)))

section
variable {entries : Entries} (rows : Rows Value.Regular entries)
include rows

theorem lookupRegular {key : String} {v : Value} (found : entries.lookup key = some v) : v.Regular :=
  rows.all _ ((lookupMember rows.apart).mp found)

theorem readOverrides {c : Config} (done : ofEntries entries = .ok c) : Overrides entries c := by
  have timeout := setsPart timeoutSets rows.apart done
  have attempts := setsPart attemptsSets rows.apart done
  have ports := setsPart portsSets rows.apart done
  have buffer := setsPart bufferSets rows.apart done
  have loopback := setsPart loopbackSets rows.apart done
  have targets := setsPart hostsSets rows.apart done
  constructor
  case timeout => exact ⟨timeout.1, fun v found => timeoutOk.mp (timeout.2 v found)⟩
  case attempts => exact ⟨attempts.1, fun v found => u32Ok.mp (attempts.2 v found)⟩
  case ports => exact ⟨ports.1, fun v found => (portRangeOk (lookupRegular rows found)).mp (ports.2 v found)⟩
  case buffer => exact ⟨buffer.1, fun v found => usizeOk.mp (buffer.2 v found)⟩
  case loopback => exact ⟨loopback.1, fun v found => booleanOk.mp (loopback.2 v found)⟩
  case targets => exact ⟨targets.1, fun v found => (targetsOk (lookupRegular rows found)).mp (targets.2 v found)⟩

theorem readReadable : (∃ c, ofEntries entries = .ok c) ↔ ∀ k v, entries.lookup k = some v → Readable k v :=
  lookupsReads entryReads rows.apart

theorem overridesReadable {c : Config} (overrides : Overrides entries c) {k : String} {v : Value}
    (found : entries.lookup k = some v) : Readable k v := by
  constructor <;> rintro rfl
  case timeout => exact ⟨_, u64Ok.mpr (overrides.timeout.present v found).2⟩
  case attempts => exact ⟨_, u32Ok.mpr (overrides.attempts.present v found)⟩
  case ports => exact ⟨_, (portRangeOk (lookupRegular rows found)).mpr (overrides.ports.present v found)⟩
  case buffer => exact ⟨_, usizeOk.mpr (overrides.buffer.present v found)⟩
  case loopback => exact ⟨_, booleanOk.mpr (overrides.loopback.present v found)⟩
  case targets => exact ⟨_, (targetsOk (lookupRegular rows found)).mpr (overrides.targets.present v found)⟩

theorem overridesUnique {c d : Config} (first : Overrides entries c) (second : Overrides entries d) : c = d := by
  have timeout := settingUnique first.timeout second.timeout fun _ _ _ => timeoutOk
  have attempts := settingUnique first.attempts second.attempts fun _ _ _ => u32Ok
  have ports := settingUnique first.ports second.ports fun _ found _ => portRangeOk (lookupRegular rows found)
  have buffer := settingUnique first.buffer second.buffer fun _ _ _ => usizeOk
  have loopback := settingUnique first.loopback second.loopback fun _ _ _ => booleanOk
  have targets := settingUnique first.targets second.targets fun _ found _ => targetsOk (lookupRegular rows found)
  cases c
  cases d
  congr

theorem ofEntriesOk {c : Config} : ofEntries entries = .ok c ↔ Overrides entries c := by
  refine ⟨readOverrides rows, fun overrides => ?_⟩
  obtain ⟨d, done⟩ := (readReadable rows).mpr fun k v found => overridesReadable rows overrides found
  exact overridesUnique rows (readOverrides rows done) overrides ▸ done

end

theorem naturalReads {α : Type} {bound : Nat} {wanted : Wanted} {v : Value} {ofNat : Nat → α} :
    (∃ a, (natural bound wanted v).map ofNat = .ok a) ↔ ∃ n : Nat, v = .integer n ∧ n < bound := by
  simp only [mapReads, naturalOk]

theorem u32Reads {v : Value} : (∃ n, u32 v = .ok n) ↔ ∃ n : Nat, v = .integer n ∧ n < UInt32.size :=
  naturalReads

/- A document has no integer that is too large for 64 bits. -/
theorem wordReads {α : Type} {wanted : Wanted} {v : Value} (regular : v.Regular) {ofNat : Nat → α} :
    (∃ a, (natural UInt64.size wanted v).map ofNat = .ok a) ↔ ∃ n : Nat, v = .integer n := by
  rw [naturalReads]
  constructor
  · rintro ⟨n, same, -⟩
    exact ⟨n, same⟩
  · rintro ⟨n, rfl⟩
    cases regular with
    | integer fits =>
      have small := (fitsNatural n).mp fits
      exact ⟨n, rfl, Nat.lt_of_le_of_lt small (by decide)⟩

theorem targetsReads {v : Value} (regular : v.Regular) : (∃ t, targets v = .ok t) ↔
    ∃ rows, v = .table rows ∧ ∀ key w, rows.lookup key = some w → ∃ text, HostGiven text w := by
  cases regular with
  | table apart all =>
    rename_i entries
    have reads := lookupsReads (c := .empty) targetReads apart
    simp only [Value.table.injEq, exists_eq_left']
    refine reads.trans (forall_congr' fun k => forall_congr' fun w => imp_congr_right fun found => ?_)
    exact exists_congr fun text => hostOk (all _ ((lookupMember apart).mp found))
  | _ => exact ⟨nofun, nofun⟩

theorem admissibleReadable {entries : Entries} (rows : Rows Value.Regular entries) :
    Admissible entries ↔ ∀ k v, entries.lookup k = some v → Readable k v := by
  constructor
  · intro admissible k v found
    have regular := lookupRegular rows found
    constructor <;> rintro rfl
    case timeout => exact (wordReads regular).mpr (admissible.timeout v found)
    case attempts => exact u32Reads.mpr (admissible.attempts v found)
    case ports => exact (exists_congr fun _ => portRangeOk regular).mpr (admissible.ports v found)
    case buffer => exact (wordReads regular).mpr (admissible.buffer v found)
    case loopback => exact (exists_congr fun _ => booleanOk).mpr (admissible.loopback v found)
    case targets => exact (targetsReads regular).mpr (admissible.targets v found)
  · intro readable
    constructor <;> intro v found <;> have regular := lookupRegular rows found
    case timeout => exact (wordReads regular).mp ((readable _ v found).timeout rfl)
    case attempts => exact u32Reads.mp ((readable _ v found).attempts rfl)
    case ports => exact (exists_congr fun _ => portRangeOk regular).mp ((readable _ v found).ports rfl)
    case buffer => exact (wordReads regular).mp ((readable _ v found).buffer rfl)
    case loopback => exact (exists_congr fun _ => booleanOk).mp ((readable _ v found).loopback rfl)
    case targets => exact (targetsReads regular).mp ((readable _ v found).targets rfl)

structure Agree (alike : Value → Value → Prop) (key : String) (a b : Entries) : Prop where
  missing : a.lookup key = none ↔ b.lookup key = none
  present : ∀ v w, a.lookup key = some v → b.lookup key = some w → alike v w

inductive PortsAlike : Value → Value → Prop where
  | same (v : Value) : PortsAlike v v
  | tables {a b : List (String × Value)} (first : Agree Eq "first" a b) (last : Agree Eq "last" a b) :
      PortsAlike (.table a) (.table b)

inductive HostsAlike : Value → Value → Prop where
  | same (v : Value) : HostsAlike v v
  | tables {a b : List (String × Value)} (host : Agree Eq "host" a b) : HostsAlike (.table a) (.table b)

inductive TargetsAlike : Value → Value → Prop where
  | same (v : Value) : TargetsAlike v v
  | tables {a b : List (String × Value)} (hosts : ∀ key, Agree HostsAlike key a b) :
      TargetsAlike (.table a) (.table b)

structure Alike (a b : Entries) : Prop where
  timeout : Agree Eq "connect_timeout" a b
  attempts : Agree Eq "port_retry_attempts" a b
  ports : Agree PortsAlike "ephemeral_ports" a b
  buffer : Agree Eq "relay_buffer_size" a b
  loopback : Agree Eq "loopback_only" a b
  targets : Agree TargetsAlike "direct_targets" a b

section
variable {a b : Entries} {key : String} {alike : Value → Value → Prop}

theorem agreeSymm (symm : ∀ v w, alike v w → alike w v) (agree : Agree alike key a b) : Agree alike key b a :=
  ⟨agree.missing.symm, fun v w here there => symm w v (agree.present w v there here)⟩

theorem agreeFound (agree : Agree alike key a b) {w : Value} (found : b.lookup key = some w) :
    ∃ v, a.lookup key = some v ∧ alike v w := by
  cases here : a.lookup key with
  | none => simp [agree.missing.mp here] at found
  | some v => exact ⟨v, rfl, agree.present v w here found⟩

theorem agreeKept (agree : Agree Eq key a b) {v : Value} (found : a.lookup key = some v) : b.lookup key = some v := by
  obtain ⟨w, here, rfl⟩ := agreeFound (agreeSymm (fun _ _ => Eq.symm) agree) found
  exact here

theorem settingAgree {given : α → Value → Prop} {d x : α} (agree : Agree alike key a b)
    (kept : ∀ v w, alike v w → given x v → given x w) (setting : Setting a key given d x) :
    Setting b key given d x := by
  refine ⟨fun none => setting.missing (agree.missing.mpr none), fun w found => ?_⟩
  obtain ⟨v, here, alike⟩ := agreeFound agree found
  exact kept v w alike (setting.present v here)

end

theorem portsSymm (v w : Value) (alike : PortsAlike v w) : PortsAlike w v := by
  cases alike with
  | same => exact .same v
  | tables first last => exact .tables (agreeSymm (fun _ _ => Eq.symm) first) (agreeSymm (fun _ _ => Eq.symm) last)

theorem hostsSymm (v w : Value) (alike : HostsAlike v w) : HostsAlike w v := by
  cases alike with
  | same => exact .same v
  | tables host => exact .tables (agreeSymm (fun _ _ => Eq.symm) host)

theorem targetsSymm (v w : Value) (alike : TargetsAlike v w) : TargetsAlike w v := by
  cases alike with
  | same => exact .same v
  | tables hosts => exact .tables fun key => agreeSymm hostsSymm (hosts key)

theorem alikeSymm {a b : Entries} (alike : Alike a b) : Alike b a where
  timeout := agreeSymm (fun _ _ => Eq.symm) alike.timeout
  attempts := agreeSymm (fun _ _ => Eq.symm) alike.attempts
  ports := agreeSymm portsSymm alike.ports
  buffer := agreeSymm (fun _ _ => Eq.symm) alike.buffer
  loopback := agreeSymm (fun _ _ => Eq.symm) alike.loopback
  targets := agreeSymm targetsSymm alike.targets

theorem portsKept (p : PortRange) (v w : Value) (alike : PortsAlike v w) (given : PortsGiven p v) : PortsGiven p w := by
  cases alike with
  | same => exact given
  | tables low high =>
    cases given with
    | table first last => exact .table (agreeKept low first) (agreeKept high last)

theorem hostsKept (text : String) (v w : Value) (alike : HostsAlike v w) (given : HostGiven text v) :
    HostGiven text w := by
  cases alike with
  | same => exact given
  | tables host =>
    cases given with
    | table here => exact .table (agreeKept host here)

theorem targetsKept (t : Targets) (v w : Value) (alike : TargetsAlike v w) (given : TargetsGiven t v) :
    TargetsGiven t w := by
  cases alike with
  | same => exact given
  | tables hosts =>
    cases given with
    | table missing present =>
      refine .table (fun key none => missing key ((hosts key).missing.mpr none)) fun key y found => ?_
      obtain ⟨x, here, alike⟩ := agreeFound (hosts key) found
      obtain ⟨text, given, there⟩ := present key x here
      exact ⟨text, hostsKept text x y alike given, there⟩

theorem overridesAlike {a b : Entries} (alike : Alike a b) {c : Config} (overrides : Overrides a c) :
    Overrides b c where
  timeout := settingAgree alike.timeout (fun _ _ same => same ▸ id) overrides.timeout
  attempts := settingAgree alike.attempts (fun _ _ same => same ▸ id) overrides.attempts
  ports := settingAgree alike.ports (portsKept _) overrides.ports
  buffer := settingAgree alike.buffer (fun _ _ same => same ▸ id) overrides.buffer
  loopback := settingAgree alike.loopback (fun _ _ same => same ▸ id) overrides.loopback
  targets := settingAgree alike.targets (targetsKept _) overrides.targets

theorem ofTextOk {text : String} {entries : Entries} (valid : parse text = some entries) {c : Config} :
    ofText ofEntries text = .ok c ↔ Overrides entries c := by
  rw [← ofEntriesOk (parseRegular valid), ofText, valid]
  exact mapErrorOk

/- Settings of a document: there are some just if every known key that is there has a value of its
kind, and then they are the defaults with just these values in their place. Neither the order of
keys nor unknown ones matter, at any level; a range with one end missing is none; and a file of
this text is loaded as these settings. -/
theorem documentOverrides {text : String} {entries : Entries} (valid : parse text = some entries) :
    ((∃ c, ofText ofEntries text = .ok c) ↔ Admissible entries) ∧
    (∀ c, ofText ofEntries text = .ok c ↔ Overrides entries c) ∧
    (∀ other rows, parse other = some rows → Alike entries rows →
      ∀ c, ofText ofEntries text = .ok c ↔ ofText ofEntries other = .ok c) ∧
    (∀ rows, entries.lookup "ephemeral_ports" = some (.table rows) →
      rows.lookup "first" = none ∨ rows.lookup "last" = none → ∀ c, ofText ofEntries text ≠ .ok c) ∧
    ∀ fs path, fs.exists? (FilePath.ofString path) = true → fs.read (FilePath.ofString path) = .ok text.toUTF8 →
      load fs path ofEntries = ofText ofEntries text := by
  have rows := parseRegular valid
  have reads := @ofTextOk text entries valid
  refine ⟨?accepted, fun c => reads, fun other rows' valid' alike c => ?alike, fun inner found partly c read => ?partly,
    fun fs path present bytes => loadsText present bytes ofEntries⟩
  case accepted =>
    rw [admissibleReadable rows, ← readReadable rows]
    exact exists_congr fun c => reads.trans (ofEntriesOk rows).symm
  case alike =>
    rw [reads, ofTextOk valid']
    exact ⟨overridesAlike alike, overridesAlike (alikeSymm alike)⟩
  case partly =>
    cases (reads.mp read).ports.present _ found with
    | table first last => simp [first, last] at partly

def partText : String :=
  "unused = 'x'\nport_retry_attempts = 7\nephemeral_ports = [40000, 40010, 3]\n[direct_targets.vm]\nhost = '10.0.0.5'\n"

def partSettings : Config :=
  { default with
    portRetryAttempts := 7, ephemeralPorts := ⟨40000, 40010⟩, directTargets := .ofList [("vm", "10.0.0.5")] }

theorem documentOverridesPartly : ofText ofEntries partText = .ok partSettings ∧
    ∃ entries, parse partText = some entries ∧ Admissible entries ∧ Overrides entries partSettings := by
  have some' : (ofText ofEntries partText).toOption = some partSettings := by decide +kernel
  have read : ofText ofEntries partText = .ok partSettings := by
    cases found : ofText ofEntries partText with
    | error _ => simp [found, Except.toOption] at some'
    | ok c => rw [found] at some'; rw [Option.some.inj some']
  obtain ⟨entries, valid⟩ : ∃ entries, parse partText = some entries := Option.isSome_iff_exists.mp (by decide +kernel)
  obtain ⟨accepted, reads, -⟩ := documentOverrides valid
  exact ⟨read, entries, valid, accepted.mp ⟨_, read⟩, (reads partSettings).mp read⟩

end TunnelRelay.Config
