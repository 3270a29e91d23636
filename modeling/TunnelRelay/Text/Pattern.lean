import TunnelRelay.Text.Characters
import TunnelRelay.Text.Decimal

/-! Search patterns: which texts are patterns that can be searched for in one pass.
A pattern is made of characters, `.`, escapes after a backslash, classes in square
brackets, groups in round ones with modes or a name, alternatives between `|`, and
the repetitions `?`, `*` and `+`. Repetitions that are counted in curly brackets
are not known. Patterns are about the characters of all scripts unless a mode limits
them to the basic ones, and of the scripts neither the cases nor the kinds of letters
are known: there, `\d`, `\s`, `\w`, `\p` and search in either case are malformed, and a
word boundary cannot be searched for. -/
namespace TunnelRelay.Text.Pattern

inductive Error where
  | malformed
  | wordBoundary
  deriving DecidableEq, Repr

def Error.message : Error → String
  | malformed => "error building NFA"
  | wordBoundary => "unsupported regex feature for DFAs: cannot build DFAs for regexes with Unicode " ++
      "word boundaries; switch to ASCII word boundaries, or heuristically enable Unicode word " ++
      "boundaries or use a different regex engine"

structure Modes where
  verbose : Bool := false
  anyCase : Bool := false
  -- About all scripts; without it, whatever could match half a character is malformed.
  scripts : Bool := true
  deriving DecidableEq, Repr

def Modes.set (m : Modes) (on : Bool) : Char → Modes
  | 'x' => { m with verbose := on }
  | 'i' => { m with anyCase := on }
  | 'u' => { m with scripts := on }
  | _ => m

def Modes.literals (m : Modes) : Bool := !(m.anyCase && m.scripts)

def skip (m : Modes) : List Char → List Char
  | [] => []
  | c :: rest =>
      if !m.verbose then c :: rest
      else if isBlank c then skip m rest
      else if c = '#' then skip m (rest.dropWhile (· != '\n'))
      else c :: rest
  termination_by cs => cs.length
  decreasing_by
    all_goals
      have := (List.dropWhile_sublist (fun x : Char => x != '\n') (l := rest)).length_le
      simp only [List.length_cons]
      omega

inductive Atom where
  | literal (c : Char)
  | set
  | place
  | boundary
  deriving DecidableEq, Repr

def hasMeaning (c : Char) : Bool := "\\.+*?()|[]\x7b\x7d^$#&-~".toList.contains c

def digitsAfter : Char → Option Nat
  | 'x' => some 2
  | 'u' => some 4
  | 'U' => some 8
  | _ => none

def readScalar (count : Nat) (cs : List Char) : Option (Char × List Char) :=
  let digits := cs.take count
  let n := ofDigits 16 digits
  if digits.length = count && digits.all (isDigitOf 16) && n.isValidChar then
    some (Char.ofNat n, cs.drop count)
  else none

def readEscape (m : Modes) : List Char → Option (Atom × List Char)
  | [] => none
  | c :: rest =>
      match digitsAfter c with
      | some count => do
          let (scalar, rest) ← readScalar count rest
          if m.scripts || scalar.toNat < 128 then some (.literal scalar, rest) else none
      | none =>
          if hasMeaning c || (c.toNat < 128 && !c.isAlphanum && c != '<' && c != '>') then some (.literal c, rest)
          else match c with
            | 'd' | 's' | 'w' => if m.scripts then none else some (.set, rest)
            | 'a' => some (.literal '\x07', rest)
            | 'f' => some (.literal '\x0c', rest)
            | 't' => some (.literal '\t', rest)
            | 'n' => some (.literal '\n', rest)
            | 'r' => some (.literal '\r', rest)
            | 'v' => some (.literal '\x0b', rest)
            | 'A' | 'z' => some (.place, rest)
            | 'b' | 'B' | '<' | '>' => some (if m.scripts then .boundary else .place, rest)
            | _ => none

def classNames : List String :=
  ["alnum", "alpha", "ascii", "blank", "cntrl", "digit", "graph", "lower", "print", "punct", "space",
    "upper", "word", "xdigit"]

def namedClass (cs : List Char) : Option (List Char) :=
  match cs with
  | ':' :: rest =>
      let rest := match rest with
        | '^' :: rest => rest
        | _ => rest
      let name := rest.takeWhile (· != ':')
      match rest.drop name.length with
      | ':' :: ']' :: rest => if classNames.contains (String.ofList name) then some rest else none
      | _ => none
  | _ => none

def openClass (m : Modes) (cs : List Char) : Option (List Char) :=
  let cs := skip m cs
  let start := match cs with
    | '^' :: rest => if m.scripts then some (skip m rest) else none
    | _ => some cs
  start.map fun cs =>
    match cs with
    | ']' :: rest => rest
    | _ => cs.dropWhile (· == '-')

def readItem (m : Modes) : List Char → Option (Atom × List Char)
  | [] => none
  | '\\' :: rest => readEscape m rest
  | c :: rest => if m.scripts || c.toNat < 128 then some (.literal c, rest) else none

def readRange (m : Modes) (cs : List Char) : Option (List Char) := do
  let (first, rest) ← readItem m cs
  let rest := skip m rest
  let alone := match first with
    | .literal _ | .set => some rest
    | .place | .boundary => none
  match rest with
  | [] => none
  | '-' :: after =>
      match skip m after with
      | ']' :: _ | '-' :: _ => alone
      | after => do
          let (last, rest) ← readItem m after
          match first, last with
          | .literal a, .literal b => if a ≤ b then some rest else none
          | _, _ => none
  | _ => alone

def readClass (m : Modes) : (n : Nat) → (depth : Nat) → List Char → Option (List Char)
  | 0, _, _ => none
  | n + 1, depth, cs =>
      match skip m cs with
      | [] => none
      | ']' :: rest => if depth ≤ 1 then some rest else readClass m n (depth - 1) rest
      | '[' :: rest =>
          match namedClass rest with
          | some rest => readClass m n depth rest
          | none => do readClass m n (depth + 1) (← openClass m rest)
      | '&' :: '&' :: rest | '-' :: '-' :: rest | '~' :: '~' :: rest => readClass m n depth rest
      | cs => do readClass m n depth (← readRange m cs)

inductive Opening where
  | group (modes : Modes) (name : Option (List Char))
  | change (modes : Modes)

def readModes (m : Modes) (cs : List Char) : Option (Opening × List Char) :=
  let letters := cs.takeWhile fun c => c != ':' && c != ')'
  let valid := letters.all "imsUuRx-".toList.contains && letters.eraseDups.length = letters.length &&
    letters.getLast? != some '-'
  let modes := (letters.takeWhile (· != '-')).foldl (·.set true ·) m
  let modes := (letters.dropWhile (· != '-')).foldl (·.set false ·) modes
  match cs.drop letters.length with
  | ':' :: rest => if valid then some (.group modes none, rest) else none
  | ')' :: rest => if valid && !letters.isEmpty then some (.change modes, rest) else none
  | _ => none

def readName (m : Modes) (cs : List Char) : Option (Opening × List Char) :=
  let name := cs.takeWhile (· != '>')
  let valid := name.head?.any (fun c => c == '_' || (isAlphanumeric c && !c.isDigit)) &&
    name.all fun c => isAlphanumeric c || "_.[]".toList.contains c
  match cs.drop name.length with
  | '>' :: rest => if valid then some (.group m (some name), rest) else none
  | _ => none

def readOpening (m : Modes) (cs : List Char) : Option (Opening × List Char) :=
  match skip m cs with
  | '?' :: 'P' :: '<' :: rest => readName m rest
  | '?' :: '<' :: rest => readName m rest
  | '?' :: rest => readModes m rest
  | cs => some (.group m none, cs)

structure Progress where
  modes : Modes := {}
  groups : List Modes := []
  names : List (List Char) := []
  repeatable : Bool := false
  boundary : Bool := false

def Progress.step (p : Progress) : List Char → Option (Progress × List Char)
  | [] => none
  | '(' :: rest => do
      match ← readOpening p.modes rest with
      | (.change modes, rest) => some ({ p with modes, repeatable := false }, rest)
      | (.group modes name, rest) =>
          if name.any p.names.contains then none
          else some ({ p with modes, groups := p.modes :: p.groups, names := name.toList ++ p.names,
                              repeatable := false }, rest)
  | ')' :: rest =>
      match p.groups with
      | [] => none
      | modes :: groups => some ({ p with modes, groups, repeatable := true }, rest)
  | '|' :: rest => some ({ p with repeatable := false }, rest)
  | '[' :: rest => do
      let rest ← readClass p.modes (rest.length + 1) 1 (← openClass p.modes rest)
      if p.modes.literals then some ({ p with repeatable := true }, rest) else none
  | '?' :: rest | '*' :: rest | '+' :: rest => if p.repeatable then some (p, rest) else none
  | '\x7b' :: _ => none
  | '\\' :: rest => do
      let (atom, rest) ← readEscape p.modes rest
      let literal := match atom with
        | .literal _ => true
        | _ => false
      if literal && !p.modes.literals then none
      else some ({ p with repeatable := true, boundary := p.boundary || atom = .boundary }, rest)
  | '.' :: rest => if p.modes.scripts then some ({ p with repeatable := true }, rest) else none
  | '^' :: rest | '$' :: rest => some ({ p with repeatable := true }, rest)
  | _ :: rest => if p.modes.literals then some ({ p with repeatable := true }, rest) else none

/- Every step takes at least one character, so `n` can be the length of the text. -/
def checkFrom : (n : Nat) → Progress → List Char → Except Error Unit
  | n, p, cs =>
      match skip p.modes cs with
      | [] =>
          if !p.groups.isEmpty then .error .malformed
          else if p.boundary then .error .wordBoundary
          else .ok ()
      | cs =>
          match n, p.step cs with
          | n + 1, some (p, rest) => checkFrom n p rest
          | _, _ => .error .malformed

def check (cs : List Char) : Except Error Unit := checkFrom cs.length {} cs

end TunnelRelay.Text.Pattern
