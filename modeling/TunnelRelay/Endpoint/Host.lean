import TunnelRelay.Endpoint.Text

/-! Addresses in the spellings that a host may have. Besides the strict forms, a
fourth-version address may be given as one to four numbers between dots, each
decimal, octal after a zero or hexadecimal after `0x`; the last number fills all
the octets that are left. A sixth-version address may name a numbered scope. -/
namespace TunnelRelay
open Text

namespace Ipv4

def ofNat (n : Nat) : Ipv4 :=
  ⟨UInt8.ofNat (n / 16777216), UInt8.ofNat (n / 65536), UInt8.ofNat (n / 256), UInt8.ofNat n⟩

def readPart (cs : List Char) : Option Nat :=
  let (base, digits) := match cs with
    | '0' :: 'x' :: rest => (16, rest)
    | '0' :: 'X' :: rest => (16, rest)
    | '0' :: _ => (8, cs)
    | _ => (10, cs)
  if digits.isEmpty || !digits.all (isDigitOf base) then none else some (ofDigits base digits)

/- The number of an address: each part but the last is one octet, and the last
one lies below `room`, which shrinks by an octet for each part before it. -/
def ofParts (high room : Nat) : List Nat → Option Nat
  | [] => none
  | [last] => if last < room then some (high * room + last) else none
  | octet :: rest => if octet < 256 ∧ 256 < room then ofParts (high * 256 + octet) (room / 256) rest else none

def ofSpelling? (text : String) : Option Ipv4 := do
  let parts ← (text.toList.splitOn '.').mapM readPart
  return ofNat (← ofParts 0 UInt32.size parts)

end Ipv4

namespace Address

inductive SpellingError where
  | noAddress
  | unknownScope
  deriving DecidableEq, Repr

def readScoped (cs : List Char) : Except SpellingError Address :=
  match readIpv6 cs with
  | some (ip, '%' :: scope) =>
      match whole (readNumber 10 none true UInt32.size scope) with
      | some _ => .ok (.v6 ip)
      | none => .error .unknownScope
  | _ => .error .noAddress

def ofSpelling (text : String) : Except SpellingError Address :=
  match parse? text with
  | some a => .ok a
  | none =>
      match Ipv4.ofSpelling? text with
      | some ip => .ok (.v4 ip)
      | none => readScoped text.toList

end Address
end TunnelRelay
