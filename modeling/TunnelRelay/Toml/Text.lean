import TunnelRelay.Toml.Basic
import TunnelRelay.Text.Decimal

/-! TOML strings in their four forms. Basic forms have escapes, literal forms
none; the long forms drop a line end right after the opening quotes, read every
line end as a line feed, and may end in up to two quotes of their own. -/
namespace TunnelRelay.Toml
open Text

def isBasicChar (c : Char) : Bool := isCommentChar c && c != '"' && c != '\\'
def isLiteralChar (c : Char) : Bool := isCommentChar c && c != '\''

def scalar (ds : List Char) : Option Char :=
  let n := ofDigits 16 ds
  if h : n.isValidChar then some (Char.ofNatAux n h) else none

def codePoint (count : Nat) : Reader Char := fun cs => do
  let ds := cs.take count
  if ds.length == count && ds.all (isDigitOf 16) then some (← scalar ds, cs.drop count) else none

def escape : Reader Char
  | 'b' :: rest => some ('\x08', rest)
  | 't' :: rest => some ('\t', rest)
  | 'n' :: rest => some ('\n', rest)
  | 'f' :: rest => some ('\x0C', rest)
  | 'r' :: rest => some ('\r', rest)
  | '"' :: rest => some ('"', rest)
  | '\\' :: rest => some ('\\', rest)
  | 'u' :: rest => codePoint 4 rest
  | 'U' :: rest => codePoint 8 rest
  | _ => none

def basicBody : Nat → Reader (List Char)
  | 0, _ => none
  | _ + 1, [] => none
  | n + 1, c :: rest =>
      if c == '"' then some ([], rest)
      else if c == '\\' then do
        let (d, rest) ← escape rest
        let (ds, rest) ← basicBody n rest
        some (d :: ds, rest)
      else if isBasicChar c then do
        let (ds, rest) ← basicBody n rest
        some (c :: ds, rest)
      else none

def literalBody : Reader (List Char)
  | [] => none
  | c :: rest =>
      if c == '\'' then some ([], rest)
      else if isLiteralChar c then do
        let (ds, rest) ← literalBody rest
        some (c :: ds, rest)
      else none

def skipSpace : List Char → List Char
  | '\r' :: '\n' :: rest => skipSpace rest
  | c :: rest => if isBlank c || c == '\n' then skipSpace rest else c :: rest
  | [] => []

def foldedLine (cs : List Char) : Option (List Char) :=
  (newline (skipBlanks cs)).map skipSpace

/- A run of the quote: all of it text if shorter than three; from three to five
it ends the string with its surplus over three as text. -/
def quoteRun (quote : Char) (cs : List Char) : Nat × List Char :=
  ((cs.takeWhile (· == quote)).length, cs.dropWhile (· == quote))

def longBody (quote : Char) : Nat → Reader (List Char)
  | 0, _ => none
  | _ + 1, [] => none
  | n + 1, c :: rest =>
      if c == quote then
        let (more, after) := quoteRun quote rest
        if more < 2 then do
          let (ds, after) ← longBody quote n after
          some (List.replicate (more + 1) quote ++ ds, after)
        else if more < 5 then some (List.replicate (more - 2) quote, after)
        else none
      else if c == '\\' && quote == '"' then
        match foldedLine rest with
        | some rest => longBody quote n rest
        | none => do
            let (d, rest) ← escape rest
            let (ds, rest) ← longBody quote n rest
            some (d :: ds, rest)
      else
        match newline (c :: rest) with
        | some rest => do
            let (ds, rest) ← longBody quote n rest
            some ('\n' :: ds, rest)
        | none =>
            if isCommentChar c then do
              let (ds, rest) ← longBody quote n rest
              some (c :: ds, rest)
            else none

def longString (quote : Char) (cs : List Char) : Option (List Char × List Char) :=
  longBody quote (cs.length + 1) ((newline cs).getD cs)

def basicString : Reader String
  | '"' :: cs => (basicBody (cs.length + 1) cs).map fun (ds, rest) => (String.ofList ds, rest)
  | _ => none

def literalString : Reader String
  | '\'' :: cs => (literalBody cs).map fun (ds, rest) => (String.ofList ds, rest)
  | _ => none

def anyString : Reader String
  | '"' :: '"' :: '"' :: cs => (longString '"' cs).map fun (ds, rest) => (String.ofList ds, rest)
  | '\'' :: '\'' :: '\'' :: cs => (longString '\'' cs).map fun (ds, rest) => (String.ofList ds, rest)
  | '"' :: cs => basicString ('"' :: cs)
  | cs => literalString cs

end TunnelRelay.Toml
