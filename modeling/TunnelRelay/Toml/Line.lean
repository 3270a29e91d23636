import TunnelRelay.Toml.Moment
import TunnelRelay.Toml.Number
import TunnelRelay.Toml.Text
import TunnelRelay.Toml.Tree

/-! Lines of a TOML document: headers, headers of arrays of tables, and
assignments. Values may nest to a fixed depth, and dotted keys be no longer. -/
namespace TunnelRelay.Toml

def depthLimit : Nat := 80

def isBareChar (c : Char) : Bool := c.isAlphanum || c == '-' || c == '_'

def keyPart : Reader String
  | '"' :: cs => basicString ('"' :: cs)
  | '\'' :: cs => literalString ('\'' :: cs)
  | cs =>
      let bare := cs.takeWhile isBareChar
      if bare.isEmpty then none else some (String.ofList bare, cs.drop bare.length)

def keyParts : Nat → Reader (List String)
  | 0, _ => none
  | room + 1, cs => do
      let (part, rest) ← keyPart (skipBlanks cs)
      match skipBlanks rest with
      | '.' :: rest =>
          let (parts, rest) ← keyParts room rest
          some (part :: parts, rest)
      | rest => some ([part], rest)

def key : Reader (List String × String) := fun cs => do
  let (parts, rest) ← keyParts (depthLimit - 1) cs
  some ((parts.dropLast, ← parts.getLast?), rest)

def boolean : Reader Bool
  | 't' :: 'r' :: 'u' :: 'e' :: rest => some (true, rest)
  | 'f' :: 'a' :: 'l' :: 's' :: 'e' :: rest => some (false, rest)
  | _ => none

def scalarValue : Reader Value := fun cs =>
  match anyString cs with
  | some (text, rest) => some (.string text, rest)
  | none =>
  match boolean cs with
  | some (b, rest) => some (.boolean b, rest)
  | none =>
  match moment cs with
  | some (text, rest) => some (.moment text, rest)
  | none =>
  match float cs with
  | some (x, rest) => some (.float x, rest)
  | none => (integer cs).map fun (n, rest) => (.integer n, rest)

def items (item : Reader Value) : Nat → Reader (List Value)
  | 0, _ => none
  | n + 1, cs =>
      match skipLines cs.length cs with
      | ']' :: rest => some ([], rest)
      | cs => do
          let (value, rest) ← item cs
          match skipLines rest.length rest with
          | ',' :: rest =>
              let (values, rest) ← items item n rest
              some (value :: values, rest)
          | ']' :: rest => some ([value], rest)
          | _ => none

def pairs (item : Reader Value) : Nat → Nodes → Reader Nodes
  | 0, _, _ => none
  | n + 1, nodes, cs => do
      let ((path, name), rest) ← key cs
      let (_, rest) ← expectChar '=' rest
      let (value, rest) ← item (skipBlanks rest)
      let nodes ← assign path name value nodes
      match skipBlanks rest with
      | ',' :: rest => pairs item n nodes rest
      | '\x7d' :: rest => some (nodes, rest)
      | _ => none

def valueWithin : Nat → Reader Value
  | room, '[' :: cs =>
      match room with
      | 0 => none
      | room + 1 => (items (valueWithin room) (cs.length + 1) cs).map fun (vs, rest) => (.array vs, rest)
  | room, '\x7b' :: cs =>
      match room with
      | 0 => none
      | room + 1 =>
          match skipBlanks cs with
          | '\x7d' :: rest => some (.table [], rest)
          | _ => (pairs (valueWithin room) (cs.length + 1) [] cs).map fun (nodes, rest) =>
              (.table (entriesToValues nodes), rest)
  | _, cs => scalarValue cs

def value : Reader Value := valueWithin (depthLimit - 1)

inductive Line where
  | header (path : List String) (name : String)
  | element (path : List String) (name : String)
  | assignment (path : List String) (name : String) (value : Value)

def header : Reader Line := fun cs => do
  let ((path, name), rest) ← key cs
  let (_, rest) ← expectChar ']' rest
  some (.header path name, ← lineEnd rest)

def element : Reader Line := fun cs => do
  let ((path, name), rest) ← key cs
  let (_, rest) ← expectChar ']' rest
  let (_, rest) ← expectChar ']' rest
  some (.element path name, ← lineEnd rest)

def assignment : Reader Line := fun cs => do
  let ((path, name), rest) ← key cs
  let (_, rest) ← expectChar '=' rest
  let (value, rest) ← value (skipBlanks rest)
  some (.assignment path name value, ← lineEnd rest)

def line (cs : List Char) : Option (Option Line × List Char) :=
  match skipBlanks cs with
  | '[' :: '[' :: rest => (element rest).map fun (l, rest) => (some l, rest)
  | '[' :: rest => (header rest).map fun (l, rest) => (some l, rest)
  | rest =>
      match lineEnd rest with
      | some rest => some (none, rest)
      | none => (assignment rest).map fun (l, rest) => (some l, rest)

def lines : Nat → List Char → Option (List Line)
  | _, [] => some []
  | 0, _ => none
  | n + 1, cs => do
      let (l, rest) ← line cs
      let ls ← lines n rest
      some (l.toList ++ ls)

end TunnelRelay.Toml
