import TunnelRelay.Toml.Line

/-! Documents: the tables that a sequence of lines builds. A header opens one
table for the assignments below it. A table that stood only as a parent moves to
the end of its own parent when its header comes. -/
namespace TunnelRelay.Toml

structure Draft where
  root : Nodes := []
  opened : Option (List String × String) := none

namespace Draft

def openTable (name : String) (nodes : Nodes) : Option Nodes :=
  match nodes.find? name with
  | none => some (nodes ++ [(name, .table .explicit [])])
  | some (.table .implicit entries) => some (nodes.remove name ++ [(name, .table .explicit entries)])
  | some _ => none

def openElement (name : String) (nodes : Nodes) : Option Nodes :=
  match nodes.find? name with
  | none => some (nodes ++ [(name, .tables [[]])])
  | some (.tables elements) => some (nodes.put name (.tables (elements ++ [[]])))
  | some _ => none

def changeOpen (change : Nodes → Option Nodes) (d : Draft) : Option Draft :=
  match d.opened with
  | none => do some { d with root := ← change d.root }
  | some (path, name) => do
      let root ← descend .implicit (fun _ nodes =>
        match nodes.find? name with
        | some (.table origin entries) => do some (nodes.put name (.table origin (← change entries)))
        | some (.tables elements) => do
            let last ← elements.getLast?
            some (nodes.put name (.tables (elements.dropLast ++ [← change last])))
        | _ => none) path .explicit d.root
      some { d with root := root }

def add (d : Draft) : Line → Option Draft
  | .header path name => do
      let root ← descend .implicit (fun _ nodes => openTable name nodes) path .explicit d.root
      some ⟨root, some (path, name)⟩
  | .element path name => do
      let root ← descend .implicit (fun _ nodes => openElement name nodes) path .explicit d.root
      some ⟨root, some (path, name)⟩
  | .assignment path name value => d.changeOpen (assign path name value)

end Draft

def build (ls : List Line) : Option Entries := do
  let draft ← ls.foldlM Draft.add {}
  some (entriesToValues draft.root)

def parse (text : String) : Option Entries := do
  let cs := match text.toList with
    | '\uFEFF' :: rest => rest
    | cs => cs
  build (← lines (cs.length + 1) cs)

end TunnelRelay.Toml
