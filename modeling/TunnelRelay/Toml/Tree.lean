import TunnelRelay.Toml.Basic

/-! The tables of a document while it is read. Which table a line may still
extend depends on how the table came about: `implicit` ones stand only as
parents of a header, `dotted` ones come from dotted keys, and `explicit` ones
have a header or are the elements of an array of tables. -/
namespace TunnelRelay.Toml

inductive Origin where
  | implicit | dotted | explicit
  deriving DecidableEq, Repr

inductive Node where
  | leaf (value : Value)
  | table (origin : Origin) (entries : List (String × Node))
  | tables (elements : List (List (String × Node)))

abbrev Nodes := List (String × Node)

def Nodes.find? (nodes : Nodes) (key : String) : Option Node := nodes.lookup key

def Nodes.put : Nodes → String → Node → Nodes
  | [], key, node => [(key, node)]
  | (k, old) :: rest, key, node => if k = key then (key, node) :: rest else (k, old) :: Nodes.put rest key node

def Nodes.remove (nodes : Nodes) (key : String) : Nodes := nodes.filter fun e => e.1 != key

/- Applies a change to the table at the end of a path. Missing tables come into
being with the given origin; an array of tables stands for its last element. The
change gets the origin and entries of the table. -/
def descend (missing : Origin) (change : Origin → Nodes → Option Nodes) :
    List String → Origin → Nodes → Option Nodes
  | [], origin, nodes => change origin nodes
  | key :: path, _, nodes =>
      match nodes.find? key with
      | none => do
          let entries ← descend missing change path missing []
          some (nodes.put key (.table missing entries))
      | some (.leaf _) => none
      | some (.tables elements) => do
          let last ← elements.getLast?
          let entries ← descend missing change path .explicit last
          some (nodes.put key (.tables (elements.dropLast ++ [entries])))
      | some (.table origin entries) =>
          if missing = .dotted && origin = .explicit then none
          else do
            let entries ← descend missing change path origin entries
            some (nodes.put key (.table origin entries))

/- Sets `path.key = value` in a table. A dotted path must end in a table of
dotted keys, a plain key in one that is not. -/
def assign (path : List String) (key : String) (value : Value) (nodes : Nodes) : Option Nodes :=
  descend .dotted (fun origin entries =>
    if (origin == .dotted) == path.isEmpty || (entries.find? key).isSome then none
    else some (entries ++ [(key, .leaf value)])) path .explicit nodes

mutual

def Node.toValue : Node → Value
  | .leaf value => value
  | .table _ entries => .table (entriesToValues entries)
  | .tables elements => .array (elementsToValues elements)

def entriesToValues : Nodes → Entries
  | [] => []
  | (key, node) :: rest => (key, node.toValue) :: entriesToValues rest

def elementsToValues : List Nodes → List Value
  | [] => []
  | entries :: rest => .table (entriesToValues entries) :: elementsToValues rest

end

end TunnelRelay.Toml
