import TunnelRelay.Profile

/-! How tunnels are told apart outside the program, and how they and the transports
over them are shown in diagnostics. A tunnel is named by a random UUID: 122 random
bits, a version digit that is four and a variant digit that is one of four. -/
namespace TunnelRelay

structure Uuid where
  high : UInt64
  low : UInt64
  deriving DecidableEq, Repr

namespace Uuid

def ofRandom (high low : UInt64) : Uuid where
  high := (high &&& 0xFFFFFFFFFFFF0FFF) ||| 0x4000
  low := (low &&& 0x3FFFFFFFFFFFFFFF) ||| 0x8000000000000000

def digits (n : UInt64) : List Char :=
  let cs := Text.hexadecimal n.toNat
  List.replicate (16 - cs.length) '0' ++ cs

def render (id : Uuid) : String :=
  let cs := digits id.high ++ digits id.low
  String.ofList (['-'].intercalate
    [cs.take 8, (cs.drop 8).take 4, (cs.drop 12).take 4, (cs.drop 16).take 4, cs.drop 20])

def isDigit (c : Char) : Bool := ('0' ≤ c && c ≤ '9') || ('a' ≤ c && c ≤ 'f')

def isWellFormed (text : String) : Bool :=
  match text.toList.splitOn '-' with
  | [a, b, c, d, e] =>
      [a, b, c, d, e].map List.length == [8, 4, 4, 4, 12] && [a, b, c, d, e].all (·.all isDigit) &&
        c.head? == some '4' && ['8', '9', 'a', 'b'].any fun v => d.head? == some v
  | _ => false

end Uuid
def describeTunnel (id endpoint : String) (p : Profile) (closed : Bool) : String :=
  "Tunnel \x7b id: TunnelId(" ++ id ++ "), profile: " ++ p.describe ++ ", local_endpoint: " ++ endpoint ++
    ", closed: " ++ toString closed ++ " \x7d"

def describeFlags (loopbackOnly : Bool) : String :=
  "TunnelFlags \x7b loopback_only: " ++ toString loopbackOnly ++ " \x7d"

def describeTransport (id endpoint : String) (p : Profile) : String :=
  "Transport \x7b protocol: " ++ Text.quoted p.protocol.id ++ ", target: " ++ p.instanceLocator.describe ++
    ", endpoint: " ++ endpoint ++ ", tunnel: TunnelId(" ++ id ++ ") \x7d"

end TunnelRelay
