import TunnelRelay.Text.Decimal

/-! Double-precision numbers as exact dyadic rationals. A decimal is rounded to
the nearest double, a tie to the even one; a double is written with the fewest
digits that read back as the same double, and of those with the nearest, of two
equally near ones with the larger. -/
namespace TunnelRelay.Text

inductive Double where
  | nan
  | infinite (negative : Bool)
  -- The number `m * 2 ^ q`, with `m < 2 ^ 53`.
  | finite (negative : Bool) (m : Nat) (q : Int)
  deriving DecidableEq, Repr

namespace Double

def leastFull : Nat := 4503599627370496

def pow2 (e : Int) : Nat × Nat :=
  if 0 ≤ e then (Nat.pow 2 e.toNat, 1) else (1, Nat.pow 2 (-e).toNat)

def roundQuotient (num den : Nat) : Nat :=
  let floor := num / den
  let twice := 2 * (num % den)
  if twice < den || (twice == den && floor % 2 == 0) then floor else floor + 1

def ofQuotient (negative : Bool) (num den : Nat) : Double :=
  if num = 0 then finite negative 0 (-1074)
  else
    let guess : Int := (num.log2 : Int) - den.log2
    let exact := if 0 ≤ guess then decide (den * Nat.pow 2 guess.toNat ≤ num) else decide (den ≤ num * Nat.pow 2 (-guess).toNat)
    let top := if exact then guess else guess - 1
    let q := max (top - 52) (-1074)
    let (up, down) := pow2 q
    let m := roundQuotient (num * down) (den * up)
    let (m, q) := if m = 2 * leastFull then (leastFull, q + 1) else (m, q)
    if 971 < q then infinite negative else finite negative m q

/- The double nearest to `digits * 10 ^ exponent`. Numbers whose leading digit
is out of reach of every double are settled without computing the power. -/
def ofDecimal (negative : Bool) (digits : Nat) (exponent : Int) : Double :=
  let scale := (decimal digits).length + exponent
  if digits = 0 || scale < -330 then finite negative 0 (-1074)
  else if 310 < scale then infinite negative
  else if 0 ≤ exponent then ofQuotient negative (digits * Nat.pow 10 exponent.toNat) 1
  else ofQuotient negative digits (Nat.pow 10 (-exponent).toNat)

def interval (m : Nat) (q : Int) : Nat × Nat × Bool :=
  let low := if m = leastFull && -1074 < q then 4 * m - 1 else 4 * m - 2
  (low, 4 * m + 2, m % 2 == 0)

def withDigits (m : Nat) (q : Int) (count : Nat) : Option (Nat × Int) :=
  let (up, down) := pow2 (q - 2)
  let (low, high, closed) := interval m q
  let value := 4 * m * up
  let leading : Int :=
    let guess := if down ≤ value then ((decimal (value / down)).length : Int)
      else 1 - ((decimal (down / value)).length : Int)
    if 0 ≤ guess then (if Nat.pow 10 guess.toNat * down ≤ value then guess + 1 else guess)
    else if down ≤ value * Nat.pow 10 (-guess).toNat then guess + 1 else guess
  let k : Int := leading - count
  let (gridUp, gridDown) := if 0 ≤ k then (Nat.pow 10 k.toNat, 1) else (1, Nat.pow 10 (-k).toNat)
  -- one grid step is `step` and the value is `scaled`, over the same denominator
  let step := gridUp * down
  let scaled := value * gridDown
  let inside (d : Nat) : Bool :=
    let x := d * step
    let lo := low * up * gridDown
    let hi := high * up * gridDown
    (lo < x || (closed && lo == x)) && (x < hi || (closed && x == hi))
  let below := scaled / step
  let above := below + 1
  match inside below && 0 < below, inside above with
  | true, true =>
      let distance := 2 * (scaled % step)
      some (if distance < step then below else above, k)
  | true, false => some (below, k)
  | false, true => some (above, k)
  | false, false => none

def shortest (m : Nat) (q : Int) : Nat × Int :=
  ((List.range 17).findSome? fun n => withDigits m q (n + 1)).getD (m, q)

def strip (digits : List Char) (exponent : Int) : List Char × Int :=
  let kept := (digits.reverse.dropWhile (· == '0')).reverse
  (kept, exponent + (digits.length - kept.length : Nat))

def positional (digits : List Char) (exponent : Int) : List Char :=
  if 0 ≤ exponent then digits ++ List.replicate exponent.toNat '0' ++ ['.', '0']
  else
    let places := (-exponent).toNat
    if digits.length ≤ places then
      ['0', '.'] ++ List.replicate (places - digits.length) '0' ++ digits
    else digits.take (digits.length - places) ++ '.' :: digits.drop (digits.length - places)

def render : Double → String
  | nan => "NaN"
  | infinite false => "inf"
  | infinite true => "-inf"
  | finite negative m q =>
      let sign := if negative then ['-'] else []
      if m = 0 then String.ofList (sign ++ ['0', '.', '0'])
      else
        let (digits, exponent) := shortest m q
        let (digits, exponent) := strip (decimal digits) exponent
        String.ofList (sign ++ positional digits exponent)

end Double
end TunnelRelay.Text
