import TunnelRelay.CommandLine.Options

/-! Reading the words of a command line from left to right. An option takes its
value from the same word, after an equals sign or right behind its letter, or
from the next one, which then must not start with a dash unless it is a dash
alone. The first word that is wrong, or that asks for help or the version, ends
the reading; only then is the required option missed. -/
namespace TunnelRelay.CommandLine

inductive Word where
  | plain (text : String)
  | long (name : String) (value : Option String)
  | short (letter : Char) (rest : List Char)
  | divider
  deriving DecidableEq, Repr

def Word.ofString (text : String) : Word :=
  match text.toList with
  | ['-', '-'] => .divider
  | '-' :: '-' :: cs =>
      match cs.dropWhile (· != '=') with
      | [] => .long (String.ofList cs) none
      | _ :: value => .long (String.ofList (cs.takeWhile (· != '='))) (some (String.ofList value))
  | '-' :: letter :: rest => .short letter rest
  | _ => .plain text

inductive Request where
  | forward (options : Options)
  | display (flag : Flag)
  deriving DecidableEq, Repr

def attached : List Char → Option String
  | [] => none
  | '=' :: value => some (String.ofList value)
  | value => some (String.ofList value)

def readFrom (g : Given) (pending : Option OptionName) : List String → Except UsageError Request
  | [] =>
      match pending with
      | some name => .error (.noValue name)
      | none => Request.forward <$> g.options
  | text :: rest =>
      match pending, Word.ofString text with
      | some name, .plain value => do readFrom (← g.put name value) none rest
      | some name, _ => .error (.noValue name)
      | none, .plain _ => .error (.unknown text)
      | none, .divider =>
          match rest with
          | [] => Request.forward <$> g.options
          | next :: _ => .error (.unknown next)
      | none, .long name value =>
          match Item.ofLong? name, value with
          | none, _ => .error (.unknown text)
          | some (.flag flag), none => .ok (.display flag)
          | some (.flag flag), some _ => .error (.flagWithValue flag)
          | some (.option name), some value => do readFrom (← g.put name value) none rest
          | some (.option name), none => readFrom g (some name) rest
      | none, .short letter behind =>
          match Item.ofShort? letter, attached behind with
          | none, _ => .error (.unknown text)
          | some (.flag flag), _ => .ok (.display flag)
          | some (.option name), some value => do readFrom (← g.put name value) none rest
          | some (.option name), none => readFrom g (some name) rest

def read (words : List String) : Except UsageError Request := readFrom {} none words

end TunnelRelay.CommandLine
