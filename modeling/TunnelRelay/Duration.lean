import TunnelRelay.Text.Decimal

/-! Spans of time to the nanosecond. A span is written in the largest unit of
which it holds at least one (seconds, milliseconds, microseconds, nanoseconds),
with its exact decimal fraction and no trailing zeros. -/
namespace TunnelRelay
open Text

structure Duration where
  secs : UInt64
  nanos : Fin 1000000000
  deriving DecidableEq, Repr

namespace Duration

def zero : Duration := ⟨0, 0⟩

def ofSecs (secs : UInt64) : Duration := ⟨secs, 0⟩

def ofMillis (ms : UInt64) : Duration :=
  ⟨ms / 1000, Fin.ofNat 1000000000 (ms.toNat % 1000 * 1000000)⟩

def totalNanos (d : Duration) : Nat := d.secs.toNat * 1000000000 + d.nanos

def renderUnit (whole part places : Nat) (unit : List Char) : List Char :=
  let digits := decimal part
  let padded := List.replicate (places - digits.length) '0' ++ digits
  let fraction := (padded.reverse.dropWhile (· == '0')).reverse
  decimal whole ++ (if part = 0 then [] else '.' :: fraction) ++ unit

def render (d : Duration) : String :=
  let nanos := d.nanos.val
  String.ofList <|
    if 0 < d.secs then renderUnit d.secs.toNat nanos 9 ['s']
    else if 1000000 ≤ nanos then renderUnit (nanos / 1000000) (nanos % 1000000) 6 ['m', 's']
    else if 1000 ≤ nanos then renderUnit (nanos / 1000) (nanos % 1000) 3 ['µ', 's']
    else renderUnit nanos 0 0 ['n', 's']

end Duration
end TunnelRelay
