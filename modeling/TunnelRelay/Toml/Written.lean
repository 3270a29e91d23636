import TunnelRelay.Text.Decimal

/-! Written forms of TOML keys and strings. A form without escapes is preferred:
a bare key, then double quotes, then single quotes, then their long forms; only
a text that fits none of them is escaped. A tab is always escaped between double
quotes. -/
namespace TunnelRelay.Toml
open Text

def isControl (c : Char) : Bool := (c.toNat < 0x20 && c != '\t') || c.toNat == 0x7F

def unicodeEscape (c : Char) : List Char :=
  let ds := (hexadecimal c.toNat).map Char.toUpper
  ['\\', 'u'] ++ List.replicate (4 - ds.length) '0' ++ ds

def escapedChar (c : Char) : List Char :=
  match c with
  | '\t' => ['\\', 't']
  | '\x08' => ['\\', 'b']
  | '\x0C' => ['\\', 'f']
  | '\r' => ['\\', 'r']
  | '\\' => ['\\', '\\']
  | c => if isControl c then unicodeEscape c else [c]

def escapedLine (cs : List Char) : List Char :=
  cs.flatMap fun c => match c with
    | '"' => ['\\', '"']
    | '\n' => ['\\', 'n']
    | c => escapedChar c

/- Text between long double quotes; the third quote of a row is escaped and the row counts anew. -/
def escapedLong : (row : Nat) → List Char → List Char
  | _, [] => []
  | row, c :: rest =>
      if c = '"' then
        if row = 2 then '\\' :: '"' :: escapedLong 0 rest else '"' :: escapedLong (row + 1) rest
      else if c = '\n' then '\n' :: escapedLong 0 rest
      else escapedChar c ++ escapedLong 0 rest

def longestRow (quote : Char) : (row : Nat) → List Char → Nat
  | row, [] => row
  | row, c :: rest =>
      if c = quote then longestRow quote (row + 1) rest else max row (longestRow quote 0 rest)

inductive StringForm where
  | basic | literal | longBasic | longLiteral
  deriving DecidableEq, Repr

def valueForm (cs : List Char) : StringForm :=
  let lineFeed := cs.contains '\n'
  let control := cs.any fun c => isControl c && c != '\n'
  if !lineFeed && !control && !cs.contains '\\' && !cs.contains '"' then .basic
  else if !lineFeed && !control && !cs.contains '\'' then .literal
  else if !control && !cs.contains '\\' && longestRow '"' 0 cs ≤ 2 then .longBasic
  else if !control && longestRow '\'' 0 cs ≤ 2 then .longLiteral
  else if lineFeed then .longBasic
  else .basic

def writeString (s : String) : List Char :=
  let cs := s.toList
  let opening := if cs.contains '\n' then ['\n'] else []
  match valueForm cs with
  | .basic => '"' :: escapedLine cs ++ ['"']
  | .literal => '\'' :: cs ++ ['\'']
  | .longBasic => ['"', '"', '"'] ++ opening ++ escapedLong 0 cs ++ ['"', '"', '"']
  | .longLiteral => ['\'', '\'', '\''] ++ opening ++ cs ++ ['\'', '\'', '\'']

def isBareKey (cs : List Char) : Bool :=
  !cs.isEmpty && cs.all fun c => c.isAlphanum || c == '-' || c == '_'

def writeKey (s : String) : List Char :=
  let cs := s.toList
  let control := cs.any isControl
  if isBareKey cs then cs
  else if (control || cs.contains '\\' || cs.contains '"') && !control && !cs.contains '\'' then
    '\'' :: cs ++ ['\'']
  else '"' :: escapedLine cs ++ ['"']

end TunnelRelay.Toml
