import TunnelRelay.Proofs.Toml.Documents

/-! Every document is regular: no table of it has a key twice, at whatever depth, and all of its
integers fit 64 bits. The readers of values keep to it, and so does each line that is added to the
tables before it. -/
namespace TunnelRelay.Toml

structure Rows (good : α → Prop) (rows : List (String × α)) : Prop where
  apart : (rows.map Prod.fst).Nodup
  all : ∀ row ∈ rows, good row.2

inductive Value.Regular : Value → Prop where
  | string (text : String) : Value.Regular (.string text)
  | integer {n : Int} (fits : fitsInteger n = true) : Value.Regular (.integer n)
  | float (value : Text.Double) : Value.Regular (.float value)
  | boolean (value : Bool) : Value.Regular (.boolean value)
  | moment (text : String) : Value.Regular (.moment text)
  | array {items : List Value} (all : ∀ v ∈ items, Value.Regular v) : Value.Regular (.array items)
  | table {entries : List (String × Value)} (apart : (entries.map Prod.fst).Nodup)
      (all : ∀ e ∈ entries, Value.Regular e.2) : Value.Regular (.table entries)

inductive Node.Regular : Node → Prop where
  | leaf {value : Value} (regular : value.Regular) : Node.Regular (.leaf value)
  | table {origin : Origin} {entries : List (String × Node)} (apart : (entries.map Prod.fst).Nodup)
      (all : ∀ e ∈ entries, Node.Regular e.2) : Node.Regular (.table origin entries)
  | tables {elements : List (List (String × Node))} (apart : ∀ nodes ∈ elements, (nodes.map Prod.fst).Nodup)
      (all : ∀ nodes ∈ elements, ∀ e ∈ nodes, Node.Regular e.2) : Node.Regular (.tables elements)

theorem findMem {nodes : Nodes} {key : String} {node : Node} (found : nodes.find? key = some node) :
    (key, node) ∈ nodes := by
  induction nodes with
  | nil => cases found
  | cons e rest ih =>
    obtain ⟨k, first⟩ := e
    rw [findCons] at found
    split at found
    · rename_i same
      cases found
      exact same ▸ List.mem_cons_self
    · exact List.mem_cons_of_mem _ (ih found)

theorem absentKey {nodes : Nodes} {key : String} (absent : nodes.find? key = none) : key ∉ nodes.map Prod.fst := by
  induction nodes with
  | nil => exact List.not_mem_nil
  | cons e rest ih =>
    obtain ⟨k, first⟩ := e
    rw [findCons] at absent
    split at absent
    · contradiction
    · rename_i other
      exact List.not_mem_cons_of_ne_of_not_mem other (ih absent)

theorem memPut {nodes : Nodes} {key : String} {node : Node} {e : String × Node}
    (inside : e ∈ nodes.put key node) : e = (key, node) ∨ e ∈ nodes := by
  induction nodes with
  | nil => exact .inl (by simpa [Nodes.put] using inside)
  | cons head rest ih =>
    obtain ⟨k, old⟩ := head
    unfold Nodes.put at inside
    split at inside
    · exact (List.mem_cons.mp inside).imp_right (List.mem_cons_of_mem _)
    · rcases List.mem_cons.mp inside with rfl | deeper
      · exact .inr List.mem_cons_self
      · exact (ih deeper).imp_right (List.mem_cons_of_mem _)

theorem removedKey (nodes : Nodes) (key : String) : key ∉ (nodes.remove key).map Prod.fst := by
  simp [Nodes.remove]

section
variable {nodes : Nodes} (regular : Rows Node.Regular nodes)
include regular

theorem findRegular {key : String} {node : Node} (found : nodes.find? key = some node) : node.Regular :=
  regular.all _ (findMem found)

theorem appendRegular {key : String} (fresh : key ∉ nodes.map Prod.fst) {node : Node} (good : node.Regular) :
    Rows Node.Regular (nodes ++ [(key, node)]) := by
  refine ⟨?_, fun e mem => ?_⟩
  · rw [List.map_append, List.map_singleton, List.nodup_append]
    refine ⟨regular.apart, by simp, fun k old l new same => ?_⟩
    rw [same, List.mem_singleton.mp new] at old
    exact fresh old
  · rcases List.mem_append.mp mem with old | new
    · exact regular.all e old
    · exact (List.mem_singleton.mp new) ▸ good

theorem putRegular (key : String) {node : Node} (good : node.Regular) : Rows Node.Regular (nodes.put key node) := by
  refine ⟨?_, fun e mem => (memPut mem).elim (fun same => same ▸ good) (regular.all e)⟩
  have apart := regular.apart
  clear regular
  induction nodes with
  | nil => simp [Nodes.put]
  | cons head rest ih =>
    obtain ⟨k, old⟩ := head
    obtain ⟨fresh, apart⟩ := List.nodup_cons.mp apart
    unfold Nodes.put
    split
    · rename_i same
      exact same ▸ List.nodup_cons.mpr ⟨fresh, apart⟩
    · rename_i other
      refine List.nodup_cons.mpr ⟨fun mem => ?_, ih apart⟩
      obtain ⟨e, inside, rfl⟩ := List.mem_map.mp mem
      rcases memPut inside with rfl | old'
      · exact other rfl
      · exact fresh (List.mem_map.mpr ⟨e, old', rfl⟩)

theorem removeRegular (key : String) : Rows Node.Regular (nodes.remove key) :=
  ⟨regular.apart.sublist (List.filter_sublist.map _), fun e mem => regular.all e (List.mem_filter.mp mem).1⟩

end

theorem tableRegular {origin : Origin} {nodes : Nodes} :
    Node.Regular (.table origin nodes) ↔ Rows Node.Regular nodes := by
  constructor
  · rintro ⟨⟩
    exact ⟨by assumption, by assumption⟩
  · rintro ⟨apart, all⟩
    exact .table apart all

theorem tablesRegular {elements : List Nodes} :
    Node.Regular (.tables elements) ↔ ∀ nodes ∈ elements, Rows Node.Regular nodes := by
  constructor
  · rintro ⟨⟩ nodes mem
    rename_i apart all
    exact ⟨apart nodes mem, all nodes mem⟩
  · exact fun all => .tables (fun nodes mem => (all nodes mem).apart) fun nodes mem => (all nodes mem).all

theorem lastRegular {elements : List Nodes} (regular : ∀ nodes ∈ elements, Rows Node.Regular nodes) {last : Nodes}
    (good : Rows Node.Regular last) : Node.Regular (.tables (elements.dropLast ++ [last])) := by
  refine tablesRegular.mpr fun nodes mem => ?_
  rcases List.mem_append.mp mem with earlier | here
  · exact regular nodes (List.dropLast_subset _ earlier)
  · exact List.mem_singleton.mp here ▸ good

def Keeps (change : Nodes → Option Nodes) : Prop :=
  ∀ nodes result, Rows Node.Regular nodes → change nodes = some result → Rows Node.Regular result

theorem rowsEmpty {good : α → Prop} : Rows good [] := ⟨List.nodup_nil, nofun⟩

theorem descendRegular {missing : Origin} {change : Origin → Nodes → Option Nodes} (kept : ∀ o, Keeps (change o))
    (path : List String) (origin : Origin) : Keeps (descend missing change path origin) := by
  intro nodes result regular done
  induction path generalizing origin nodes result with
  | nil => exact kept origin nodes result regular done
  | cons key path ih =>
    unfold descend at done
    cases found : Nodes.find? nodes key with
    | none =>
      simp only [found, bind, Option.bind_eq_some_iff] at done
      obtain ⟨inner, deeper, same⟩ := done
      cases same
      exact putRegular regular key (tableRegular.mpr (ih missing [] inner rowsEmpty deeper))
    | some node =>
      have good := findRegular regular found
      cases node with
      | leaf value => simp [found] at done
      | tables elements =>
        simp only [found, bind, Option.bind_eq_some_iff] at done
        obtain ⟨last, present, inner, deeper, same⟩ := done
        cases same
        have all := tablesRegular.mp good
        have began := all last (List.mem_of_getLast? present)
        exact putRegular regular key (lastRegular all (ih .explicit last inner began deeper))
      | table own entries =>
        simp only [found] at done
        split at done
        · contradiction
        · simp only [bind, Option.bind_eq_some_iff] at done
          obtain ⟨inner, deeper, same⟩ := done
          cases same
          exact putRegular regular key (tableRegular.mpr (ih own entries inner (tableRegular.mp good) deeper))

theorem assignRegular (path : List String) (key : String) {value : Value} (good : value.Regular) :
    Keeps (assign path key value) := by
  refine descendRegular (fun origin nodes result regular done => ?_) path .explicit
  split at done
  · contradiction
  · rename_i free
    cases done
    have absent : Nodes.find? nodes key = none := by
      rw [Bool.or_eq_true, not_or] at free
      simpa using free.2
    exact appendRegular regular (absentKey absent) (.leaf good)

def Gives (reader : Reader α) (good : α → Prop) : Prop := ∀ cs a rest, reader cs = some (a, rest) → good a

theorem basedFits (base : Nat) : Gives (basedInteger base) fun n => fitsInteger n = true := by
  intro cs n rest read
  simp only [basedInteger, bind, Option.bind_eq_some_iff] at read
  obtain ⟨_, _, read⟩ := read
  split at read
  · rename_i fits
    cases read
    exact fits
  · contradiction

theorem decimalFits : Gives decimalInteger fun n => fitsInteger n = true := by
  intro cs n rest read
  simp only [decimalInteger, bind, Option.bind_eq_some_iff] at read
  obtain ⟨⟨ds, after⟩, _, read⟩ := read
  generalize (if (sign cs).1 = true then -(Text.ofDigits 10 ds : Int) else Text.ofDigits 10 ds) = value at read
  split at read
  · rename_i fits
    cases read
    exact fits
  · contradiction

theorem integerFits : Gives integer fun n => fitsInteger n = true := by
  intro cs n rest read
  unfold integer at read
  split at read
  · exact basedFits 16 _ _ _ read
  · exact basedFits 8 _ _ _ read
  · exact basedFits 2 _ _ _ read
  · exact decimalFits _ _ _ read

theorem scalarRegular : Gives scalarValue Value.Regular := by
  intro cs value rest read
  unfold scalarValue at read
  split at read
  · cases read
    exact .string _
  split at read
  · cases read
    exact .boolean _
  split at read
  · cases read
    exact .moment _
  split at read
  · cases read
    exact .float _
  · obtain ⟨⟨n, after⟩, found, same⟩ := Option.map_eq_some_iff.mp read
    cases same
    exact .integer (integerFits _ _ _ found)

section
variable {item : Reader Value} (regular : Gives item Value.Regular)
include regular

theorem itemsRegular (n : Nat) : Gives (items item n) fun values => ∀ v ∈ values, v.Regular := by
  induction n with
  | zero => exact nofun
  | succ n ih =>
    intro cs values rest read
    unfold items at read
    split at read
    · cases read
      exact nofun
    · simp only [bind, Option.bind_eq_some_iff] at read
      obtain ⟨⟨value, after⟩, first, read⟩ := read
      have good := regular _ _ _ first
      split at read
      · simp only [Option.bind_eq_some_iff] at read
        obtain ⟨⟨more, last⟩, others, same⟩ := read
        cases same
        exact List.forall_mem_cons.mpr ⟨good, ih _ _ _ others⟩
      · cases read
        exact List.forall_mem_singleton.mpr good
      · contradiction

theorem pairsRegular (n : Nat) {nodes : Nodes} (rows : Rows Node.Regular nodes) :
    Gives (pairs item n nodes) (Rows Node.Regular) := by
  induction n generalizing nodes with
  | zero => exact nofun
  | succ n ih =>
    intro cs result rest read
    simp only [pairs, bind, Option.bind_eq_some_iff] at read
    obtain ⟨⟨⟨path, name⟩, _⟩, _, ⟨_, _⟩, _, ⟨value, _⟩, found, assigned, kept, read⟩ := read
    have now := assignRegular path name (regular _ _ _ found) nodes assigned rows kept
    split at read
    · exact ih now _ _ _ read
    · cases read
      exact now
    · contradiction

end

theorem valuesMap (nodes : Nodes) : entriesToValues nodes = nodes.map fun e => (e.1, e.2.toValue) := by
  induction nodes with
  | nil => rfl
  | cons e rest ih => simp [entriesToValues, ih]

theorem valuesRows {nodes : Nodes} (apart : (nodes.map Prod.fst).Nodup) (all : ∀ e ∈ nodes, e.2.toValue.Regular) :
    Rows Value.Regular (entriesToValues nodes) := by
  rw [valuesMap]
  refine ⟨by rwa [List.map_map], fun e mem => ?_⟩
  obtain ⟨f, inside, rfl⟩ := List.mem_map.mp mem
  exact all f inside

theorem elementsMap (elements : List Nodes) :
    elementsToValues elements = elements.map fun nodes => .table (entriesToValues nodes) := by
  induction elements with
  | nil => rfl
  | cons nodes rest ih => simp [elementsToValues, ih]

theorem tableValue {entries : Entries} : Value.Regular (.table entries) ↔ Rows Value.Regular entries := by
  constructor
  · rintro ⟨⟩
    exact ⟨by assumption, by assumption⟩
  · rintro ⟨apart, all⟩
    exact .table apart all

theorem toValueRegular {node : Node} (regular : node.Regular) : node.toValue.Regular := by
  induction regular with
  | leaf regular => exact regular
  | table apart _ ih => exact tableValue.mpr (valuesRows apart ih)
  | tables apart _ ih =>
    rw [Node.toValue, elementsMap]
    refine .array fun value mem => ?_
    obtain ⟨nodes, inside, rfl⟩ := List.mem_map.mp mem
    exact tableValue.mpr (valuesRows (apart nodes inside) (ih nodes inside))

theorem valuesRegular {nodes : Nodes} (regular : Rows Node.Regular nodes) :
    Rows Value.Regular (entriesToValues nodes) :=
  valuesRows regular.apart fun e mem => toValueRegular (regular.all e mem)

theorem valueRegular (room : Nat) : Gives (valueWithin room) Value.Regular := by
  induction room with
  | zero =>
    intro cs value rest read
    unfold valueWithin at read
    split at read
    · contradiction
    · contradiction
    · exact scalarRegular _ _ _ read
  | succ room ih =>
    intro cs value rest read
    unfold valueWithin at read
    split at read
    · obtain ⟨⟨values, after⟩, found, same⟩ := Option.map_eq_some_iff.mp read
      cases same
      exact .array (itemsRegular ih _ _ _ _ found)
    · dsimp only at read
      split at read
      · cases read
        exact .table List.nodup_nil (fun _ mem => absurd mem List.not_mem_nil)
      · obtain ⟨⟨nodes, after⟩, found, same⟩ := Option.map_eq_some_iff.mp read
        cases same
        exact tableValue.mpr (valuesRegular (pairsRegular ih _ rowsEmpty _ _ _ found))
    · exact scalarRegular _ _ _ read

def Line.Regular : Line → Prop
  | .assignment _ _ value => value.Regular
  | _ => True

theorem lineRegular {cs rest : List Char} {l : Line} (read : line cs = some (some l, rest)) : l.Regular := by
  unfold line at read
  split at read
  · obtain ⟨⟨found, after⟩, inner, same⟩ := Option.map_eq_some_iff.mp read
    cases same
    simp only [element, bind, Option.bind_eq_some_iff] at inner
    obtain ⟨_, _, _, _, _, _, _, _, same⟩ := inner
    cases same
    trivial
  · obtain ⟨⟨found, after⟩, inner, same⟩ := Option.map_eq_some_iff.mp read
    cases same
    simp only [header, bind, Option.bind_eq_some_iff] at inner
    obtain ⟨_, _, _, _, _, _, same⟩ := inner
    cases same
    trivial
  · split at read
    · cases read
    · obtain ⟨⟨found, after⟩, inner, same⟩ := Option.map_eq_some_iff.mp read
      cases same
      simp only [assignment, bind, Option.bind_eq_some_iff] at inner
      obtain ⟨_, _, _, _, ⟨v, _⟩, reads, _, _, same⟩ := inner
      cases same
      exact valueRegular _ _ _ _ reads

theorem linesRegular {n : Nat} {cs : List Char} {ls : List Line} (read : lines n cs = some ls) :
    ∀ l ∈ ls, l.Regular := by
  induction n generalizing cs ls with
  | zero =>
    cases cs with
    | nil =>
      cases read
      exact nofun
    | cons => contradiction
  | succ n ih =>
    cases cs with
    | nil =>
      cases read
      exact nofun
    | cons c cs =>
      simp only [lines, bind, Option.bind_eq_some_iff] at read
      obtain ⟨⟨first, rest⟩, here, more, others, same⟩ := read
      cases same
      intro l mem
      rcases List.mem_append.mp mem with now | later
      · rw [Option.mem_toList] at now
        cases now
        exact lineRegular here
      · exact ih others l later

theorem openTableRegular (name : String) : Keeps (Draft.openTable name) := by
  intro nodes result regular done
  unfold Draft.openTable at done
  split at done
  · rename_i absent
    cases done
    exact appendRegular regular (absentKey absent) (tableRegular.mpr rowsEmpty)
  · rename_i entries found
    cases done
    have inner := tableRegular.mp (findRegular regular found)
    exact appendRegular (removeRegular regular name) (removedKey nodes name) (tableRegular.mpr inner)
  · contradiction

theorem openElementRegular (name : String) : Keeps (Draft.openElement name) := by
  intro nodes result regular done
  unfold Draft.openElement at done
  split at done
  · rename_i absent
    cases done
    refine appendRegular regular (absentKey absent) (tablesRegular.mpr ?_)
    exact List.forall_mem_singleton.mpr rowsEmpty
  · rename_i elements found
    cases done
    have inner := tablesRegular.mp (findRegular regular found)
    refine putRegular regular name (tablesRegular.mpr fun nodes mem => ?_)
    rcases List.mem_append.mp mem with old | new
    · exact inner nodes old
    · exact List.mem_singleton.mp new ▸ rowsEmpty
  · contradiction

theorem changeOpenRegular {change : Nodes → Option Nodes} (kept : Keeps change) {d d' : Draft}
    (regular : Rows Node.Regular d.root) (done : d.changeOpen change = some d') : Rows Node.Regular d'.root := by
  unfold Draft.changeOpen at done
  split at done
  · simp only [bind, Option.bind_eq_some_iff] at done
    obtain ⟨root, changed, same⟩ := done
    cases same
    exact kept _ _ regular changed
  · rename_i path name _
    simp only [bind, Option.bind_eq_some_iff] at done
    obtain ⟨root, changed, same⟩ := done
    cases same
    refine descendRegular (fun origin nodes result rows inner => ?_) path .explicit _ _ regular changed
    split at inner
    · rename_i origin entries found
      simp only [Option.bind_eq_some_iff] at inner
      obtain ⟨entries', now, same⟩ := inner
      cases same
      exact putRegular rows name (tableRegular.mpr (kept _ _ (tableRegular.mp (findRegular rows found)) now))
    · rename_i elements found
      simp only [Option.bind_eq_some_iff] at inner
      obtain ⟨last, present, last', now, same⟩ := inner
      cases same
      have all := tablesRegular.mp (findRegular rows found)
      exact putRegular rows name (lastRegular all (kept _ _ (all last (List.mem_of_getLast? present)) now))
    · contradiction

theorem addRegular {d d' : Draft} {l : Line} (good : l.Regular) (regular : Rows Node.Regular d.root)
    (done : d.add l = some d') : Rows Node.Regular d'.root := by
  cases l with
  | header path name =>
    simp only [Draft.add, bind, Option.bind_eq_some_iff] at done
    obtain ⟨root, changed, same⟩ := done
    cases same
    exact descendRegular (fun _ => openTableRegular name) path .explicit _ _ regular changed
  | element path name =>
    simp only [Draft.add, bind, Option.bind_eq_some_iff] at done
    obtain ⟨root, changed, same⟩ := done
    cases same
    exact descendRegular (fun _ => openElementRegular name) path .explicit _ _ regular changed
  | assignment path name value => exact changeOpenRegular (assignRegular path name good) regular done

theorem addAllRegular {ls : List Line} (good : ∀ l ∈ ls, l.Regular) {d d' : Draft}
    (regular : Rows Node.Regular d.root) (done : ls.foldlM Draft.add d = some d') : Rows Node.Regular d'.root := by
  induction ls generalizing d with
  | nil =>
    cases done
    exact regular
  | cons l ls ih =>
    simp only [List.foldlM_cons, bind, Option.bind_eq_some_iff] at done
    obtain ⟨next, now, later⟩ := done
    obtain ⟨first, others⟩ := List.forall_mem_cons.mp good
    exact ih others (addRegular first regular now) later

theorem parseRegular {text : String} {entries : Entries} (parsed : parse text = some entries) :
    Rows Value.Regular entries := by
  simp only [parse, bind, Option.bind_eq_some_iff] at parsed
  obtain ⟨ls, read, built⟩ := parsed
  simp only [build, bind, Option.bind_eq_some_iff] at built
  obtain ⟨d, added, same⟩ := built
  cases same
  exact valuesRegular (addAllRegular (linesRegular read) rowsEmpty added)

end TunnelRelay.Toml
