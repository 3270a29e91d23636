import TunnelRelay.Endpoint

/-! Endpoint text: `127.0.0.1:80`, `[::1]:80`, `[fe80::1%3]:6`. Written forms
are canonical: lower-case hexadecimal groups without leading zeros, the longest
run of at least two zero groups (the first of equals) as `::`, an embedded
fourth-version address dotted, and a scope only when it is not zero. -/
namespace TunnelRelay
open Text

def Ipv4.render (ip : Ipv4) : List Char :=
  ['.'].intercalate ([ip.a, ip.b, ip.c, ip.d].map fun octet => decimal octet.toNat)

namespace Ipv6

def zeroRun (groups : List UInt16) : Nat × Nat :=
  (List.range groups.length).foldl (fun best start =>
    let length := ((groups.drop start).takeWhile (· == 0)).length
    if best.2 < length then (start, length) else best) (0, 0)

def renderGroups (groups : List UInt16) : List Char :=
  [':'].intercalate (groups.map fun g => hexadecimal g.toNat)

def embedded (high low : UInt16) : Ipv4 :=
  ⟨(high >>> 8).toUInt8, high.toUInt8, (low >>> 8).toUInt8, low.toUInt8⟩

def render (ip : Ipv6) : List Char :=
  match ip.toList with
  | [0, 0, 0, 0, 0, 0xFFFF, high, low] => "::ffff:".toList ++ (embedded high low).render
  | groups =>
      let (start, length) := zeroRun groups
      if length < 2 then renderGroups groups
      else renderGroups (groups.take start) ++ "::".toList ++ renderGroups (groups.drop (start + length))

end Ipv6

def Address.render : Address → String
  | .v4 ip => String.ofList ip.render
  | .v6 ip => String.ofList ip.render

def Endpoint.render : Endpoint → String
  | .v4 ip port => String.ofList (ip.render ++ ':' :: decimal port.toNat)
  | .v6 ip port scope =>
      let suffix := if scope = 0 then [] else '%' :: decimal scope.toNat
      String.ofList ('[' :: ip.render ++ suffix ++ [']', ':'] ++ decimal port.toNat)

namespace Address

def readNumber (base : Nat) (width : Option Nat) (zeros : Bool) (bound : Nat) (cs : List Char) :
    Option (Nat × List Char) :=
  let digits := cs.takeWhile (isDigitOf base)
  let n := ofDigits base digits
  if digits.isEmpty || width.any (· < digits.length) || bound ≤ n ||
      (!zeros && 1 < digits.length && digits.head? == some '0') then none
  else some (n, cs.drop digits.length)

def readOctet (cs : List Char) : Option (UInt8 × List Char) := do
  let (n, rest) ← readNumber 10 (some 3) false 256 cs
  some (UInt8.ofNat n, rest)

def readChar (c : Char) : List Char → Option (List Char)
  | d :: rest => if d = c then some rest else none
  | [] => none

def readIpv4 (cs : List Char) : Option (Ipv4 × List Char) := do
  let (a, cs) ← readOctet cs
  let (b, cs) ← readOctet (← readChar '.' cs)
  let (c, cs) ← readOctet (← readChar '.' cs)
  let (d, cs) ← readOctet (← readChar '.' cs)
  some (⟨a, b, c, d⟩, cs)

def readGroups : (room : Nat) → (first : Bool) → List Char → List UInt16 × Bool × List Char
  | 0, _, cs => ([], false, cs)
  | room + 1, first, cs =>
      match (if first then some cs else readChar ':' cs) with
      | none => ([], false, cs)
      | some start =>
          match (if room = 0 then none else readIpv4 start) with
          | some (ip, rest) =>
              ([ip.a.toUInt16 <<< 8 ||| ip.b.toUInt16, ip.c.toUInt16 <<< 8 ||| ip.d.toUInt16], true, rest)
          | none =>
              match readNumber 16 (some 4) true 65536 start with
              | none => ([], false, cs)
              | some (g, rest) =>
                  let (groups, dotted, rest) := readGroups room false rest
                  (UInt16.ofNat g :: groups, dotted, rest)

def ofGroups (groups : List UInt16) : Option Ipv6 :=
  if h : groups.toArray.size = 8 then some ⟨groups.toArray, h⟩ else none

def readIpv6 (cs : List Char) : Option (Ipv6 × List Char) := do
  let (head, dotted, rest) := readGroups 8 true cs
  if head.length = 8 then
    some (← ofGroups head, rest)
  else if dotted then none
  else
    let rest ← readChar ':' (← readChar ':' rest)
    let (tail, _, rest) := readGroups (7 - head.length) true rest
    some (← ofGroups (head ++ List.replicate (8 - head.length - tail.length) 0 ++ tail), rest)

def whole : Option (α × List Char) → Option α
  | some (a, []) => some a
  | _ => none

def parse? (text : String) : Option Address :=
  match whole (readIpv4 text.toList) with
  | some ip => some (.v4 ip)
  | none => (whole (readIpv6 text.toList)).map .v6

end Address

namespace Endpoint
open Address

def readPort (cs : List Char) : Option (UInt16 × List Char) := do
  let (n, rest) ← readNumber 10 none true 65536 (← readChar ':' cs)
  some (UInt16.ofNat n, rest)

def readV4 (cs : List Char) : Option (Endpoint × List Char) := do
  let (ip, rest) ← readIpv4 cs
  let (port, rest) ← readPort rest
  some (v4 ip port, rest)

def readScope (cs : List Char) : Option (UInt32 × List Char) := do
  let (n, rest) ← readNumber 10 none true UInt32.size (← readChar '%' cs)
  some (UInt32.ofNat n, rest)

def readV6 (cs : List Char) : Option (Endpoint × List Char) := do
  let (ip, rest) ← readIpv6 (← readChar '[' cs)
  let (scope, rest) := (readScope rest).getD (0, rest)
  let (port, rest) ← readPort (← readChar ']' rest)
  some (v6 ip port scope, rest)

def parse? (text : String) : Option Endpoint :=
  match whole (readV4 text.toList) with
  | some e => some e
  | none => whole (readV6 text.toList)

end Endpoint
end TunnelRelay
