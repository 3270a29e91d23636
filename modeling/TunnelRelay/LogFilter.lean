import TunnelRelay.Text.Pattern

/-! Log lines and the filter that selects them. A filter is a list of rules
between commas: a level, the name of a component, or a component and its level,
with square brackets after the component that limit the rule further. Of the rules
that concern a line the one with the longest component judges it, of equal ones one
that names a field and then the last; a filter without rules shows errors only. The
lines of this program have a message as their only field and are inside no span, so
rules for spans and for values of fields concern none of them. -/
namespace TunnelRelay

inductive LogLevel where
  | error | warn | info | debug | trace
  deriving DecidableEq, Repr

namespace LogLevel

def all : List LogLevel := [error, warn, info, debug, trace]

def rank : LogLevel → Nat
  | error => 1
  | warn => 2
  | info => 3
  | debug => 4
  | trace => 5

def name : LogLevel → String
  | error => "ERROR"
  | warn => "WARN"
  | info => "INFO"
  | debug => "DEBUG"
  | trace => "TRACE"

end LogLevel

structure LogLine where
  level : LogLevel
  text : String
  deriving DecidableEq, Repr

def LogLine.render (l : LogLine) : String := l.level.name ++ " " ++ l.text

abbrev LogLimit := Option LogLevel

namespace LogLimit

def allows (limit : LogLimit) (level : LogLevel) : Bool := limit.any fun l => level.rank ≤ l.rank

def ofChars? (cs : List Char) : Option LogLimit :=
  let digits := match cs with
    | '+' :: rest => rest
    | _ => cs
  if !digits.isEmpty && digits.all Char.isDigit then
    let n := Nat.ofDigitChars 10 digits 0
    if n = 0 then some none else (LogLevel.all.find? fun l => l.rank == n).map some
  else
    let name := cs.map Char.toUpper
    if name = ['O', 'F', 'F'] then some none
    else (LogLevel.all.find? fun l => l.name.toList == name).map some

end LogLimit

def LogLine.field : String := "message"

structure LogRule where
  component : Option String := none
  field : Option String := none
  inSpan : Bool := false
  limit : LogLimit := some .trace
  deriving DecidableEq, Repr

inductive LogRuleError where
  | malformed
  | unknownLevel
  | badPattern (error : Text.Pattern.Error)
  deriving DecidableEq, Repr

def LogRuleError.message : LogRuleError → String
  | malformed => "invalid filter directive"
  | unknownLevel => "error parsing level filter: expected one of \"off\", \"error\", \"warn\", \"info\", " ++
      "\"debug\", \"trace\", or a number 0-5"
  | badPattern error => "invalid field filter: " ++ error.message

namespace LogRule

def mayStart (c : Char) : Bool := "[-:_".toList.contains c || Text.isAlphanumeric c

def limitOf (cs : List Char) : Except LogRuleError LogLimit :=
  if cs.isEmpty then .ok (some .trace)
  else match LogLimit.ofChars? cs with
    | some limit => .ok limit
    | none => .error .unknownLevel

def isNumber (cs : List Char) : Bool :=
  let unsigned (cs : List Char) := match cs with
    | '+' :: rest | '-' :: rest => rest
    | _ => cs
  let body := (unsigned cs).map Char.toLower
  let whole := body.takeWhile Char.isDigit
  let (fraction, rest) := match body.drop whole.length with
    | '.' :: rest => (rest.takeWhile Char.isDigit, rest.dropWhile Char.isDigit)
    | rest => ([], rest)
  let exponent := match rest with
    | [] => true
    | 'e' :: rest => let digits := unsigned rest; !digits.isEmpty && digits.all Char.isDigit
    | _ => false
  ["inf", "infinity", "nan"].contains (String.ofList body) ||
    (!(whole.isEmpty && fraction.isEmpty) && exponent)

def isLiteral (cs : List Char) : Bool := ["true", "false"].contains (String.ofList cs) || isNumber cs

def readField (cs : List Char) : Except LogRuleError (String × Bool) :=
  let name := cs.takeWhile (· != '=')
  match cs.drop name.length with
  | [] => .ok (String.ofList name, false)
  | _ :: rest =>
      let value := rest.takeWhile (· != '=')
      if isLiteral value then .ok (String.ofList name, true)
      else match Text.Pattern.check value with
        | .ok () => .ok (String.ofList name, true)
        | .error e => .error (.badPattern e)

def bytes (cs : List Char) : Nat := (String.ofList cs).utf8ByteSize

def takeBytes : Nat → List Char → List Char
  | n, c :: rest => if n = 0 then [] else c :: takeBytes (n - c.utf8Size) rest
  | _, [] => []

def dropBytes : Nat → List Char → List Char
  | n, c :: rest => if n = 0 then c :: rest else dropBytes (n - c.utf8Size) rest
  | _, [] => []

/- Places are found in the text without the blanks around it, but what stands at
them is taken from the whole text, so blanks at the start shift what is read. -/
structure Source where
  full : List Char

namespace Source

def stripped (s : Source) : List Char := Text.trim s.full

def piece (s : Source) (before piece : List Char) : List Char :=
  takeBytes (bytes piece) (dropBytes (bytes before) s.full)

def after (s : Source) (before : List Char) : List Char := dropBytes (bytes before) s.full

end Source

def readBracket (source : Source) (component : Option String) (before cs : List Char) :
    Except LogRuleError LogRule := do
  let span := cs.takeWhile fun c => c != ']' && c != '\x7b'
  let level (rule : LogRule) (before : List Char) : List Char → Except LogRuleError LogRule
    | [] => .ok rule
    | '=' :: _ => do return { rule with limit := ← limitOf (source.after (before ++ ['='])) }
    | _ => .error .malformed
  match cs.drop span.length with
  | ']' :: rest => level { component, inSpan := true } (before ++ span ++ [']']) rest
  | '\x7b' :: inside =>
      let field := inside.takeWhile (· != '\x7d')
      let before := before ++ span ++ ['\x7b']
      match inside.drop field.length with
      | '\x7d' :: rest =>
          if field.isEmpty then throw .malformed
          let (name, valued) ← readField (source.piece before field)
          match rest with
          | ']' :: rest =>
              level { component, field := some name, inSpan := valued || !span.isEmpty }
                (before ++ field ++ ['\x7d', ']']) rest
          | _ => throw .malformed
      | _ => throw .malformed
  | _ => throw .malformed

def parse (text : String) : Except LogRuleError LogRule := do
  let source : Source := ⟨text.toList⟩
  let cs := source.stripped
  if !(cs.head?.any mayStart) then throw .malformed
  let name := cs.takeWhile fun c => c != '=' && c != '['
  let component := if name.isEmpty then none else some (String.ofList (source.piece [] name))
  match cs.drop name.length with
  | '[' :: rest => readBracket source component (name ++ ['[']) rest
  | _ :: _ => return { component, limit := ← limitOf (source.after (name ++ ['='])) }
  | [] =>
      match LogLimit.ofChars? source.full with
      | some limit => return { limit }
      | none => return { component := some text }

def concerns (r : LogRule) (component : String) : Bool :=
  !r.inSpan && r.component.all (component.startsWith ·) && r.field.all (· == LogLine.field)

def precision (r : LogRule) : Nat :=
  2 * (r.component.map fun c => c.utf8ByteSize + 1).getD 0 + if r.field.isSome then 1 else 0

end LogRule

structure LogFilter where
  rules : List LogRule := []
  deriving Repr

namespace LogFilter

def read (text : String) : LogFilter × List (String × LogRuleError) :=
  (((text.toList.splitOn ',').map String.ofList).filter (· != "")).foldr (fun part acc =>
    match LogRule.parse part with
    | .ok rule => (⟨rule :: acc.1.rules⟩, acc.2)
    | .error e => (acc.1, (part, e) :: acc.2)) ({}, [])

def ruleFor (f : LogFilter) (component : String) : Option LogRule :=
  (f.rules.filter (·.concerns component)).foldl
    (fun best r => if best.all fun b => b.precision ≤ r.precision then some r else best) none

def allows (f : LogFilter) (component : String) (level : LogLevel) : Bool :=
  if f.rules.isEmpty then LogLimit.allows (some .error) level
  else (f.ruleFor component).any fun r => r.limit.allows level

end LogFilter
end TunnelRelay
