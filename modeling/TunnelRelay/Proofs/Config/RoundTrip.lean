import TunnelRelay.Config.Files
import TunnelRelay.Proofs.Toml.Documents

/-! Settings saved and loaded again. The text of settings is a document whose tables are the
settings' own, so that loading it gives the settings with the timeout in whole seconds, and
saving those gives the same text. -/
namespace TunnelRelay.Config
open Toml Text

def integerOf (n : Nat) : Value := .integer n

def targetLines (e : String × String) : List Line :=
  [.header ["direct_targets"] e.1, .assignment [] "host" (.string e.2)]

def targetsLines (t : Targets) : List Line :=
  match t.entries with
  | [] => [.header [] "direct_targets"]
  | entries => entries.flatMap targetLines

def ownLines (c : Config) : List Line :=
  [.assignment [] "connect_timeout" (integerOf c.connectTimeout.secs.toNat),
    .assignment [] "port_retry_attempts" (integerOf c.portRetryAttempts.toNat),
    .assignment [] "relay_buffer_size" (integerOf c.relayBufferSize.toNat),
    .assignment [] "loopback_only" (.boolean c.loopbackOnly),
    .header [] "ephemeral_ports",
    .assignment [] "first" (integerOf c.ephemeralPorts.first.toNat),
    .assignment [] "last" (integerOf c.ephemeralPorts.last.toNat)]

def configLines (c : Config) : List Line := ownLines c ++ targetsLines c.directTargets

theorem bareKey {name : String} (bare : isBareKey name.toList = true) : writeKey name = name.toList := by
  simp [writeKey, bare]

theorem targetSplit (e : String × String) (rest : List Char) :
    targetText e ++ rest = '[' :: ("direct_targets".toList ++ '.' :: (writeKey e.1 ++ ']' :: '\n' ::
      (field "host" (writeString e.2) ++ rest))) := by
  have opening : "[direct_targets.".toList = '[' :: ("direct_targets".toList ++ ['.']) := by decide
  have closing : "]\n".toList = [']', '\n'] := by decide
  unfold targetText
  rw [opening, closing]
  simp only [List.append_assoc, List.cons_append, List.nil_append]

section
variable {rest : List Char} {ls : List Line} (tail : LinesRead rest ls)
include tail

theorem fieldLine (name : String) (bare : isBareKey name.toList = true) {text : List Char} {v : Value}
    (stands : Stands text v) : LinesRead (field name text ++ rest) (.assignment [] name v :: ls) := by
  have reads := assignmentLine tail stands name
  rw [bareKey bare] at reads
  simpa [field] using reads

theorem targetLine (e : String × String) : LinesRead (targetText e ++ rest) (targetLines e ++ ls) := by
  have inner := fieldLine tail "host" (by decide) (stringStands e.2)
  have reads := entryLine inner "direct_targets" e.1
  have path : writeKey "direct_targets" = "direct_targets".toList := bareKey (by decide)
  rw [path] at reads
  rw [targetSplit]
  exact reads

end

theorem entriesRead (e : String × String) (entries : List (String × String)) :
    LinesRead (['\n'].intercalate ((e :: entries).map targetText)) ((e :: entries).flatMap targetLines) := by
  induction entries generalizing e with
  | nil => simpa using targetLine noLines e
  | cons f entries ih =>
    have reads := targetLine (emptyLine (ih f)) e
    rw [List.map_cons, List.map_cons, List.intercalate_cons_cons]
    simpa using reads

theorem targetsRead (t : Targets) : LinesRead (targetsText t) (targetsLines t) := by
  unfold targetsText targetsLines
  cases entries : t.entries with
  | nil => exact headerLine noLines "direct_targets"
  | cons e rest => exact entriesRead e rest

theorem fitsSmall {n : Nat} (small : n < 4294967296) : fitsInteger n = true := by
  have bounds : Int64.minValue.toInt ≤ n ∧ (n : Int) ≤ Int64.maxValue.toInt := by
    constructor
    · exact Int.le_trans (by decide) (Int.natCast_nonneg n)
    · exact Int.le_trans (Int.ofNat_le.mpr (Nat.le_of_lt small)) (by decide)
  simp [fitsInteger, bounds]

theorem booleanStands (b : Bool) : Stands (booleanText b) (.boolean b) := by
  cases b with
  | false => exact falseStands
  | true => exact trueStands

theorem configRead {c : Config} (timeout : fitsInteger c.connectTimeout.secs.toNat = true)
    (buffer : fitsInteger c.relayBufferSize.toNat = true) : LinesRead c.render c.configLines := by
  have attempts := integerStands (fitsSmall c.portRetryAttempts.toNat_lt)
  have port (p : UInt16) := integerStands (fitsSmall (Nat.lt_of_lt_of_le p.toNat_lt (by decide)))
  have targets := emptyLine (targetsRead c.directTargets)
  have last := fieldLine targets "last" (by decide) (port c.ephemeralPorts.last)
  have first := fieldLine last "first" (by decide) (port c.ephemeralPorts.first)
  have header := headerLine first "ephemeral_ports"
  have loopback := fieldLine (emptyLine header) "loopback_only" (by decide) (booleanStands c.loopbackOnly)
  have size := fieldLine loopback "relay_buffer_size" (by decide) (integerStands buffer)
  have retries := fieldLine size "port_retry_attempts" (by decide) attempts
  have all := fieldLine retries "connect_timeout" (by decide) (integerStands timeout)
  have ports : writeKey "ephemeral_ports" = "ephemeral_ports".toList := bareKey (by decide)
  rw [ports] at all
  simpa [render, configLines, ownLines, integerOf] using all

def targetNode (e : String × String) : String × Node :=
  (e.1, .table .explicit [("host", .leaf (.string e.2))])

theorem targetAbsent {pre : List (String × String)} {key : String} (above : ∀ e ∈ pre, e.1 < key) :
    Nodes.find? (pre.map targetNode) key = none := by
  induction pre with
  | nil => rfl
  | cons e pre ih =>
    have other : key ≠ e.1 := fun same => String.lt_irrefl key (same ▸ above e List.mem_cons_self)
    rw [List.map_cons, targetNode, findCons, if_neg other]
    exact ih fun f mem => above f (List.mem_cons_of_mem _ mem)

section
variable {root : Nodes} (absent : root.find? "direct_targets" = none)
include absent

theorem buildTarget {pre : List (String × String)} {e : String × String} (above : ∀ f ∈ pre, f.1 < e.1)
    (opened : Option (List String × String)) :
    (targetLines e).foldlM Draft.add
        ⟨root ++ [("direct_targets", .table .implicit (pre.map targetNode))], opened⟩ =
      some ⟨root ++ [("direct_targets", .table .implicit ((pre ++ [e]).map targetNode))],
        some (["direct_targets"], e.1)⟩ := by
  have fresh := targetAbsent above
  have empty : Nodes.find? [] "host" = none := rfl
  simp only [targetLines, List.foldlM_cons, List.foldlM_nil, addNext absent fresh, bind, Option.bind_some,
    addInner absent fresh empty, pure]
  simp [targetNode]

theorem buildRest {pre entries : List (String × String)} (ordered : (pre ++ entries).Pairwise (fun a b => a.1 < b.1))
    (opened : Option (List String × String)) :
    ∃ last, (entries.flatMap targetLines).foldlM Draft.add
        ⟨root ++ [("direct_targets", .table .implicit (pre.map targetNode))], opened⟩ =
      some ⟨root ++ [("direct_targets", .table .implicit ((pre ++ entries).map targetNode))], last⟩ := by
  induction entries generalizing pre opened with
  | nil => exact ⟨opened, by simp⟩
  | cons e entries ih =>
    have above : ∀ f ∈ pre, f.1 < e.1 := fun f mem =>
      (List.pairwise_append.mp ordered).2.2 f mem e List.mem_cons_self
    obtain ⟨last, rest⟩ := @ih (pre ++ [e]) (by simpa using ordered) (some (["direct_targets"], e.1))
    refine ⟨last, ?_⟩
    rw [List.flatMap_cons, List.foldlM_append, buildTarget absent above]
    simpa using rest

theorem buildTargets (t : Targets) (opened : Option (List String × String)) :
    ∃ origin last, (targetsLines t).foldlM Draft.add ⟨root, opened⟩ =
      some ⟨root ++ [("direct_targets", .table origin (t.entries.map targetNode))], last⟩ := by
  unfold targetsLines
  cases entries : t.entries with
  | nil =>
    refine ⟨.explicit, some ([], "direct_targets"), ?_⟩
    simp only [List.foldlM_cons, List.foldlM_nil, addHeader absent, bind, Option.bind_some, pure, List.map_nil]
  | cons e rest =>
    have empty : Nodes.find? [] "host" = none := rfl
    have apart : Nodes.find? [] e.1 = none := rfl
    have first := addInner absent apart empty (.string e.2)
    have ordered : ([e] ++ rest).Pairwise (fun a b => a.1 < b.1) := by simpa [entries] using t.ordered
    obtain ⟨last, others⟩ := @buildRest root absent [e] rest ordered (some (["direct_targets"], e.1))
    refine ⟨.implicit, last, ?_⟩
    simp only [List.nil_append] at first
    simp only [List.flatMap_cons, List.foldlM_append, targetLines, List.foldlM_cons, List.foldlM_nil,
      addFirst absent, bind, Option.bind_some, first, pure]
    exact others

end

theorem targetValues (entries : List (String × String)) :
    entriesToValues (entries.map targetNode) = entries.map fun e => (e.1, .table [("host", .string e.2)]) := by
  induction entries with
  | nil => rfl
  | cons e entries ih => simp [entriesToValues, targetNode, Node.toValue, ih]

def ownNodes (c : Config) : Nodes :=
  [("connect_timeout", .leaf (integerOf c.connectTimeout.secs.toNat)),
    ("port_retry_attempts", .leaf (integerOf c.portRetryAttempts.toNat)),
    ("relay_buffer_size", .leaf (integerOf c.relayBufferSize.toNat)),
    ("loopback_only", .leaf (.boolean c.loopbackOnly)),
    ("ephemeral_ports", .table .explicit [("first", .leaf (integerOf c.ephemeralPorts.first.toNat)),
      ("last", .leaf (integerOf c.ephemeralPorts.last.toNat))])]

theorem buildOwn (c : Config) :
    (ownLines c).foldlM Draft.add {} = some ⟨ownNodes c, some ([], "ephemeral_ports")⟩ :=
  rfl

def portsEntries (p : PortRange) : Entries :=
  [("first", integerOf p.first.toNat), ("last", integerOf p.last.toNat)]

def targetEntries (t : Targets) : Entries := t.entries.map fun e => (e.1, .table [("host", .string e.2)])

def configEntries (c : Config) : Entries :=
  [("connect_timeout", integerOf c.connectTimeout.secs.toNat),
    ("port_retry_attempts", integerOf c.portRetryAttempts.toNat),
    ("relay_buffer_size", integerOf c.relayBufferSize.toNat),
    ("loopback_only", .boolean c.loopbackOnly),
    ("ephemeral_ports", .table (portsEntries c.ephemeralPorts)),
    ("direct_targets", .table (targetEntries c.directTargets))]

theorem buildConfig (c : Config) : build c.configLines = some c.configEntries := by
  have absent : (ownNodes c).find? "direct_targets" = none := rfl
  obtain ⟨origin, last, targets⟩ := buildTargets absent c.directTargets (some ([], "ephemeral_ports"))
  simp only [build, configLines, List.foldlM_append, buildOwn, targets, bind, Option.bind_some]
  simp [ownNodes, configEntries, portsEntries, targetEntries, entriesToValues, Node.toValue, targetValues]

theorem naturalRead {n bound : Nat} (below : n < bound) (wanted : Wanted) :
    natural bound wanted (integerOf n) = .ok n := by
  simp [natural, integerOf, below]

theorem u16Read (n : UInt16) : u16 (integerOf n.toNat) = .ok n := by
  have below : n.toNat < UInt16.size := n.toNat_lt
  rw [u16, naturalRead below, Except.map, UInt16.ofNat_toNat]

theorem u32Read (n : UInt32) : u32 (integerOf n.toNat) = .ok n := by
  have below : n.toNat < UInt32.size := n.toNat_lt
  rw [u32, naturalRead below, Except.map, UInt32.ofNat_toNat]

theorem u64Read (n : UInt64) : u64 (integerOf n.toNat) = .ok n := by
  have below : n.toNat < UInt64.size := n.toNat_lt
  rw [u64, naturalRead below, Except.map, UInt64.ofNat_toNat]

theorem usizeRead (n : UInt64) : usize (integerOf n.toNat) = .ok n := by
  have below : n.toNat < UInt64.size := n.toNat_lt
  rw [usize, naturalRead below, Except.map, UInt64.ofNat_toNat]

theorem portsDecoded {first last : Value} {p : PortRange} (left : u16 first = .ok p.first)
    (right : u16 last = .ok p.last) : portRange (.table [("first", first), ("last", last)]) = .ok p := by
  simp [portRange, PortsDraft.entry, left, right, required, bind, Except.bind, pure, Except.pure]

theorem hostRead (text : String) : host (.table [("host", .string text)]) = .ok text := by
  simp [host, hostEntry, string, required, bind, Except.bind, pure, Except.pure, Except.map]

theorem insertAbove {key host : String} {entries : List (String × String)} (above : ∀ e ∈ entries, e.1 < key) :
    Targets.insertEntry key host entries = entries ++ [(key, host)] := by
  induction entries with
  | nil => rfl
  | cons e entries ih =>
    have below := above e List.mem_cons_self
    have notBefore : ¬ key < e.1 := fun before => String.lt_irrefl key (String.lt_trans before below)
    rw [Targets.insertEntry, if_neg notBefore, if_pos below, ih fun f mem => above f (List.mem_cons_of_mem _ mem)]
    rfl

theorem targetsFold {t : Targets} {entries : List (String × String)}
    (ordered : (t.entries ++ entries).Pairwise (fun a b => a.1 < b.1)) :
    ((entries.map fun e => (e.1, Value.table [("host", .string e.2)])).foldlM targetEntry t) =
      .ok ⟨t.entries ++ entries, ordered⟩ := by
  induction entries generalizing t with
  | nil => simp [pure, Except.pure]
  | cons e entries ih =>
    have above : ∀ f ∈ t.entries, f.1 < e.1 := fun f mem =>
      (List.pairwise_append.mp ordered).2.2 f mem e List.mem_cons_self
    have inserted : (t.insert e.1 e.2).entries = t.entries ++ [e] := insertAbove above
    have rest := @ih (t.insert e.1 e.2) (by simpa [inserted] using ordered)
    simp only [List.map_cons, List.foldlM_cons, targetEntry, hostRead, Except.map, bind, Except.bind, rest]
    simp [inserted]

theorem targetsDecoded (t : Targets) : targets (.table (targetEntries t)) = .ok t :=
  @targetsFold .empty _ t.ordered

theorem settingsDecoded {timeout attempts size ports hosts : Value} {c : Config}
    (first : u64 timeout = .ok c.connectTimeout.secs) (second : u32 attempts = .ok c.portRetryAttempts)
    (third : usize size = .ok c.relayBufferSize) (fifth : portRange ports = .ok c.ephemeralPorts)
    (sixth : targets hosts = .ok c.directTargets) :
    ofEntries [("connect_timeout", timeout), ("port_retry_attempts", attempts), ("relay_buffer_size", size),
      ("loopback_only", .boolean c.loopbackOnly), ("ephemeral_ports", ports), ("direct_targets", hosts)] =
      .ok { c with connectTimeout := .ofSecs c.connectTimeout.secs } := by
  simp [ofEntries, entry, first, second, third, fifth, sixth, boolean, bind, Except.bind, pure, Except.pure]

theorem configDecoded (c : Config) :
    ofEntries c.configEntries = .ok { c with connectTimeout := .ofSecs c.connectTimeout.secs } :=
  settingsDecoded (u64Read _) (u32Read _) (usizeRead _) (portsDecoded (u16Read _) (u16Read _)) (targetsDecoded _)

end TunnelRelay.Config
