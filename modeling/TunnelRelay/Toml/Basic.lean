import TunnelRelay.Text.Double

/-! Values of a TOML document, and the blanks, comments and line ends of its text. A
table keeps its entries in the order of the document; a date or time is kept as its
canonical text. A line ends in a line feed, with or without a carriage return before
it, or with the text. -/
namespace TunnelRelay.Toml

inductive Value where
  | string (text : String)
  | integer (value : Int)
  | float (value : Text.Double)
  | boolean (value : Bool)
  | moment (text : String)
  | array (items : List Value)
  | table (entries : List (String × Value))

abbrev Entries := List (String × Value)

def fitsInteger (n : Int) : Bool := Int64.minValue.toInt ≤ n && n ≤ Int64.maxValue.toInt

abbrev Reader (α : Type) := List Char → Option (α × List Char)

def isBlank (c : Char) : Bool := c == ' ' || c == '\t'

def skipBlanks (cs : List Char) : List Char := cs.dropWhile isBlank

def isCommentChar (c : Char) : Bool :=
  c == '\t' || (0x20 ≤ c.toNat && c.toNat ≤ 0x7E) || 0x80 ≤ c.toNat

def skipComment : List Char → List Char
  | '#' :: rest => rest.dropWhile isCommentChar
  | cs => cs

def newline : List Char → Option (List Char)
  | '\n' :: rest => some rest
  | '\r' :: '\n' :: rest => some rest
  | _ => none

def lineEnd (cs : List Char) : Option (List Char) :=
  match skipComment (skipBlanks cs) with
  | [] => some []
  | rest => newline rest

def skipLines : Nat → List Char → List Char
  | 0, cs => skipBlanks cs
  | n + 1, cs =>
      match newline (skipComment (skipBlanks cs)) with
      | some rest => skipLines n rest
      | none => skipBlanks cs

end TunnelRelay.Toml
