import TunnelRelay.Proofs.Toml.Numbers
import TunnelRelay.Toml.Document

/-! Documents read back: texts made up of whole lines, and the tables that headers and
assignments build one after the other. -/
namespace TunnelRelay.Toml

/- The text is read as these lines with any fuel that it cannot use up. -/
def LinesRead (cs : List Char) (ls : List Line) : Prop := ∀ n, cs.length ≤ n → lines n cs = some ls

theorem noLines : LinesRead [] [] := by
  intro n _
  cases n <;> rfl

theorem lineRead {cs rest : List Char} {l : Option Line} {ls : List Line} (reads : line cs = some (l, rest))
    (shorter : rest.length < cs.length) (tail : LinesRead rest ls) : LinesRead cs (l.toList ++ ls) := by
  intro n enough
  obtain ⟨m, rfl⟩ : ∃ m, n = m + 1 := ⟨n - 1, by omega⟩
  cases cs with
  | nil => contradiction
  | cons c cs => simp only [lines, reads, tail m (by omega), bind, Option.bind_some]

section
variable {rest : List Char} {ls : List Line} (tail : LinesRead rest ls)
include tail

theorem emptyLine : LinesRead ('\n' :: rest) ls := by
  have reads : line ('\n' :: rest) = some (none, rest) := rfl
  exact lineRead reads (Nat.lt_succ_self _) tail

theorem headerLine (name : String) :
    LinesRead ('[' :: (writeKey name ++ ']' :: '\n' :: rest)) (.header [] name :: ls) :=
  lineRead (plainHeader name rest) (by simp; omega) tail

theorem entryLine (path name : String) :
    LinesRead ('[' :: (writeKey path ++ '.' :: (writeKey name ++ ']' :: '\n' :: rest))) (.header [path] name :: ls) :=
  lineRead (dottedHeader path name rest) (by simp; omega) tail

theorem assignmentLine {text : List Char} {v : Value} (stands : Stands text v) (name : String) :
    LinesRead (writeKey name ++ ' ' :: '=' :: ' ' :: (text ++ '\n' :: rest)) (.assignment [] name v :: ls) :=
  lineRead (assignmentRead stands name rest) (by simp; omega) tail

end

theorem parseLines {text : String} {ls : List Line} (reads : LinesRead text.toList ls)
    (unmarked : text.toList.head? ≠ some '\uFEFF') : parse text = build ls := by
  unfold parse
  split
  · rename_i rest same
    rw [same] at unmarked
    contradiction
  · simp only [reads _ (Nat.le_succ _), bind, Option.bind_some]

theorem findCons (k : String) (node : Node) (rest : Nodes) (name : String) :
    Nodes.find? ((k, node) :: rest) name = if name = k then some node else rest.find? name := by
  by_cases same : name = k
  · simp [Nodes.find?, same]
  · have other : (name == k) = false := beq_false_of_ne same
    simp [Nodes.find?, List.lookup_cons, same, other]

section
variable {nodes : Nodes} {name : String} (absent : nodes.find? name = none)
include absent

theorem putAppend (old new : Node) : Nodes.put (nodes ++ [(name, old)]) name new = nodes ++ [(name, new)] := by
  induction nodes with
  | nil => simp [Nodes.put]
  | cons e rest ih =>
    obtain ⟨k, node⟩ := e
    rw [findCons] at absent
    split at absent <;> try contradiction
    rename_i other
    simp [Nodes.put, Ne.symm other, ih absent]

theorem putAbsent (node : Node) : Nodes.put nodes name node = nodes ++ [(name, node)] := by
  induction nodes with
  | nil => simp [Nodes.put]
  | cons e rest ih =>
    obtain ⟨k, first⟩ := e
    rw [findCons] at absent
    split at absent <;> try contradiction
    rename_i other
    simp [Nodes.put, Ne.symm other, ih absent]

theorem findAppend (node : Node) : Nodes.find? (nodes ++ [(name, node)]) name = some node := by
  simp only [Nodes.find?, List.lookup_append, List.lookup_cons, beq_self_eq_true] at absent ⊢
  simp [absent]

end

section
variable {root : Nodes} {name : String} (absent : root.find? name = none)
include absent

theorem addHeader (opened : Option (List String × String)) :
    Draft.add ⟨root, opened⟩ (.header [] name) =
      some ⟨root ++ [(name, .table .explicit [])], some ([], name)⟩ := by
  simp [Draft.add, descend, Draft.openTable, absent]

theorem addFirst (opened : Option (List String × String)) (key : String) :
    Draft.add ⟨root, opened⟩ (.header [name] key) =
      some ⟨root ++ [(name, .table .implicit [(key, .table .explicit [])])], some ([name], key)⟩ := by
  have empty : Nodes.find? [] key = none := rfl
  simp [Draft.add, descend, Draft.openTable, absent, putAbsent absent, empty]

theorem addNext {entries : Nodes} {key : String} (fresh : entries.find? key = none)
    (opened : Option (List String × String)) :
    Draft.add ⟨root ++ [(name, .table .implicit entries)], opened⟩ (.header [name] key) =
      some ⟨root ++ [(name, .table .implicit (entries ++ [(key, .table .explicit [])]))], some ([name], key)⟩ := by
  simp [Draft.add, descend, Draft.openTable, findAppend absent, putAppend absent, fresh]

theorem addInner {entries inner : Nodes} {key field : String} (apart : entries.find? key = none)
    (fresh : inner.find? field = none) (v : Value) :
    Draft.add ⟨root ++ [(name, .table .implicit (entries ++ [(key, .table .explicit inner)]))], some ([name], key)⟩
        (.assignment [] field v) =
      some ⟨root ++ [(name, .table .implicit (entries ++ [(key, .table .explicit (inner ++ [(field, .leaf v)]))]))],
        some ([name], key)⟩ := by
  simp [Draft.add, Draft.changeOpen, assign, descend, findAppend absent, putAppend absent, findAppend apart,
    putAppend apart, fresh]

end

end TunnelRelay.Toml
