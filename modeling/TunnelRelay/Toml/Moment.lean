import TunnelRelay.Toml.Basic
import TunnelRelay.Text.Decimal

/-! TOML dates and times, read into their canonical text: a `T` between date
and time, fractions of a second to nine places without trailing zeros, and a
zero offset as `Z` only when it was written so. -/
namespace TunnelRelay.Toml
open Text

def fixedDigits (count : Nat) : Reader Nat := fun cs =>
  let ds := cs.take count
  if ds.length == count && ds.all Char.isDigit then some (ofDigits 10 ds, cs.drop count) else none

def expectChar (c : Char) : Reader Unit
  | d :: rest => if d == c then some ((), rest) else none
  | [] => none

def padded (count n : Nat) : List Char :=
  let ds := decimal n
  List.replicate (count - ds.length) '0' ++ ds

def isLeap (year : Nat) : Bool := year % 4 == 0 && (year % 100 != 0 || year % 400 == 0)

def daysIn (year month : Nat) : Nat :=
  if month == 2 then (if isLeap year then 29 else 28)
  else if [4, 6, 9, 11].contains month then 30 else 31

def dateText : Reader (List Char) := fun cs => do
  let (year, cs) ← fixedDigits 4 cs
  let (_, cs) ← expectChar '-' cs
  let (month, cs) ← fixedDigits 2 cs
  let (_, cs) ← expectChar '-' cs
  let (day, cs) ← fixedDigits 2 cs
  if 1 ≤ month && month ≤ 12 && 1 ≤ day && day ≤ daysIn year month then
    some (padded 4 year ++ '-' :: padded 2 month ++ '-' :: padded 2 day, cs)
  else none

def secondFraction : List Char → List Char × List Char
  | '.' :: rest =>
      let ds := rest.takeWhile Char.isDigit
      let kept := ((ds.take 9).reverse.dropWhile (· == '0')).reverse
      if ds.isEmpty then ([], '.' :: rest)
      else (if kept.isEmpty then [] else '.' :: kept, rest.drop ds.length)
  | cs => ([], cs)

def timeText : Reader (List Char) := fun cs => do
  let (hour, cs) ← fixedDigits 2 cs
  let (_, cs) ← expectChar ':' cs
  let (minute, cs) ← fixedDigits 2 cs
  let (_, cs) ← expectChar ':' cs
  let (second, cs) ← fixedDigits 2 cs
  if hour ≤ 23 && minute ≤ 59 && second ≤ 60 then
    let (part, rest) := secondFraction cs
    some (padded 2 hour ++ ':' :: padded 2 minute ++ ':' :: padded 2 second ++ part, rest)
  else none

def offsetText : Reader (List Char)
  | c :: cs =>
      if c == 'Z' || c == 'z' then some (['Z'], cs)
      else if c == '+' || c == '-' then do
        let (hour, cs) ← fixedDigits 2 cs
        let (_, cs) ← expectChar ':' cs
        let (minute, cs) ← fixedDigits 2 cs
        if hour ≤ 23 && minute ≤ 59 then
          let shown := if hour == 0 && minute == 0 then '+' else c
          some (shown :: padded 2 hour ++ ':' :: padded 2 minute, cs)
        else none
      else none
  | [] => none

def timeAfterDate : List Char → List Char × List Char
  | [] => ([], [])
  | c :: rest =>
      match (if c == 'T' || c == 't' || c == ' ' then timeText rest else none) with
      | none => ([], c :: rest)
      | some (time, after) =>
          match offsetText after with
          | some (offset, after) => ('T' :: time ++ offset, after)
          | none => ('T' :: time, after)

def moment : Reader String := fun cs =>
  match dateText cs with
  | some (date, rest) =>
      let (time, rest) := timeAfterDate rest
      some (String.ofList (date ++ time), rest)
  | none => (timeText cs).map fun (time, rest) => (String.ofList time, rest)

end TunnelRelay.Toml
