import TunnelRelay.Toml.Basic

/-! TOML numbers: integers in four bases, and floats. Underscores may stand
between digits; decimal numbers have no leading zeros. An integer outside 64
bits and a float beyond the largest double are not numbers of a document. -/
namespace TunnelRelay.Toml
open Text

def digitRun (isDigit : Char → Bool) : List Char → List Char × List Char
  | '_' :: c :: rest => if isDigit c then let (ds, r) := digitRun isDigit rest; (c :: ds, r) else ([], '_' :: c :: rest)
  | c :: rest => if isDigit c then let (ds, r) := digitRun isDigit rest; (c :: ds, r) else ([], c :: rest)
  | [] => ([], [])

def digits (isDigit : Char → Bool) : Reader (List Char)
  | c :: rest => if isDigit c then let (ds, r) := digitRun isDigit rest; some (c :: ds, r) else none
  | [] => none

def sign : List Char → Bool × List Char
  | '-' :: rest => (true, rest)
  | '+' :: rest => (false, rest)
  | cs => (false, cs)

def wholeDigits : Reader (List Char)
  | '0' :: rest => some (['0'], rest)
  | cs => digits Char.isDigit cs

def decimalInteger : Reader Int := fun cs => do
  let (negative, cs) := sign cs
  let (ds, rest) ← wholeDigits cs
  let n : Int := ofDigits 10 ds
  let value := if negative then -n else n
  if fitsInteger value then some (value, rest) else none

def basedInteger (base : Nat) : Reader Int := fun cs => do
  let (ds, rest) ← digits (isDigitOf base) cs
  let value : Int := ofDigits base ds
  if fitsInteger value then some (value, rest) else none

def integer : Reader Int
  | '0' :: 'x' :: cs => basedInteger 16 cs
  | '0' :: 'o' :: cs => basedInteger 8 cs
  | '0' :: 'b' :: cs => basedInteger 2 cs
  | cs => decimalInteger cs

def fraction : Reader (List Char)
  | '.' :: cs => digits Char.isDigit cs
  | _ => none

def exponent : Reader Int
  | c :: cs =>
      if c == 'e' || c == 'E' then do
        let (negative, cs) := sign cs
        let (ds, rest) ← digits Char.isDigit cs
        let n : Int := ofDigits 10 ds
        some (if negative then -n else n, rest)
      else none
  | [] => none

def specialFloat : Reader Double := fun cs =>
  let (negative, rest) := sign cs
  match rest with
  | 'i' :: 'n' :: 'f' :: rest => some (.infinite negative, rest)
  | 'n' :: 'a' :: 'n' :: rest => some (.nan, rest)
  | _ => none

def decimalFloat : Reader Double := fun cs => do
  let (negative, cs) := sign cs
  let (whole, rest) ← wholeDigits cs
  let (part, scale, rest) ←
    match fraction rest with
    | some (part, rest) =>
        match exponent rest with
        | some (e, rest) => some (part, e, rest)
        | none => some (part, 0, rest)
    | none => (exponent rest).map fun (e, rest) => ([], e, rest)
  match Double.ofDecimal negative (ofDigits 10 (whole ++ part)) (scale - part.length) with
  | .infinite false => none
  | value => some (value, rest)

def float : Reader Double := fun cs =>
  match specialFloat cs with
  | some found => some found
  | none => decimalFloat cs

end TunnelRelay.Toml
