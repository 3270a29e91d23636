/-! Numerals. Written numbers are decimal without sign or leading zeros; a
reader takes a whole run of digits, so `readDecimal (decimal n) = some n`. -/
namespace TunnelRelay.Text

def decimal (n : Nat) : List Char := Nat.toDigits 10 n

def readDecimal (cs : List Char) : Option Nat :=
  if cs.isEmpty || !cs.all Char.isDigit then none else some (Nat.ofDigitChars 10 cs 0)

theorem decimalNotEmpty (n : Nat) : decimal n ≠ [] := by
  intro h
  have pos : 0 < (Nat.toDigits 10 n).length := Nat.length_toDigits_pos
  rw [decimal] at h
  simp [h] at pos

theorem readDecimalDecimal (n : Nat) : readDecimal (decimal n) = some n := by
  have digits : (decimal n).all Char.isDigit = true := by
    simp only [List.all_eq_true, decimal]
    intro c hc
    exact Nat.isDigit_of_mem_toDigits (by decide) (by decide) hc
  have nonempty : (decimal n).isEmpty = false := by simpa using decimalNotEmpty n
  rw [readDecimal, digits, nonempty, if_neg (by decide), decimal,
    Nat.ofDigitChars_toDigits (by decide) (by decide)]

theorem decimalInjective {m n : Nat} (same : decimal m = decimal n) : m = n :=
  Option.some.inj ((readDecimalDecimal m).symm.trans ((congrArg readDecimal same).trans (readDecimalDecimal n)))

def digitValue (c : Char) : Option Nat :=
  if '0' ≤ c ∧ c ≤ '9' then some (c.toNat - '0'.toNat)
  else if 'a' ≤ c ∧ c ≤ 'f' then some (c.toNat - 'a'.toNat + 10)
  else if 'A' ≤ c ∧ c ≤ 'F' then some (c.toNat - 'A'.toNat + 10)
  else none

def isDigitOf (base : Nat) (c : Char) : Bool := (digitValue c).any (· < base)

def ofDigits (base : Nat) (cs : List Char) : Nat :=
  cs.foldl (fun n c => n * base + (digitValue c).getD 0) 0

def hexadecimal (n : Nat) : List Char := Nat.toDigits 16 n

end TunnelRelay.Text
