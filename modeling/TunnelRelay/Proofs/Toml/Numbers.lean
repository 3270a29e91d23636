import TunnelRelay.Proofs.Toml.Lines

/-! Integers read back. A decimal number at the end of a line is no date, no time and no
float, and the digits that are read are its own. -/
namespace TunnelRelay.Toml
open Text

theorem decimalDigits (n : Nat) : ∀ c ∈ decimal n, c.isDigit = true := fun _ mem =>
  Nat.isDigit_of_mem_toDigits (by decide) (by decide) mem

theorem decimalHead {n : Nat} (pos : 0 < n) : (decimal n).head? ≠ some '0' := by
  induction n using Nat.strongRecOn with
  | _ n ih =>
    unfold decimal
    by_cases small : n < 10
    · rw [Nat.toDigits_of_lt_base small]
      simpa [Nat.digitChar_eq_zero] using Nat.ne_of_gt pos
    · have shorter := ih (n / 10) (by omega) (by omega)
      obtain ⟨c, cs, here⟩ := List.exists_cons_of_ne_nil (decimalNotEmpty (n / 10))
      rw [here] at shorter
      rw [Nat.toDigits_of_base_le (by decide) (by omega), ← decimal, here]
      exact shorter

theorem digitValue' {c : Char} (digit : c.isDigit = true) : digitValue c = some (c.toNat - '0'.toNat) := by
  obtain ⟨low, high⟩ := Char.isDigit_iff_toNat.mp digit
  have inside : '0' ≤ c ∧ c ≤ '9' := ⟨low, high⟩
  rw [digitValue, if_pos inside]

theorem ofDigitsChars {cs : List Char} (digits : ∀ c ∈ cs, c.isDigit = true) (init : Nat) :
    cs.foldl (fun n c => n * 10 + (digitValue c).getD 0) init = Nat.ofDigitChars 10 cs init := by
  induction cs generalizing init with
  | nil => simp [Nat.ofDigitChars_eq_foldl]
  | cons c cs ih =>
    have tail := ih fun d mem => digits d (List.mem_cons_of_mem _ mem)
    rw [List.foldl_cons, tail, digitValue' (digits c List.mem_cons_self)]
    simp only [Nat.ofDigitChars_eq_foldl, List.foldl_cons, Option.getD_some, Nat.mul_comm]

theorem ofDigitsDecimal (n : Nat) : ofDigits 10 (decimal n) = n :=
  (ofDigitsChars (decimalDigits n) 0).trans Nat.ofDigitChars_ten_toDigits

section
variable {cs : List Char} (digits : ∀ c ∈ cs, c.isDigit = true) (rest : List Char)
include digits

theorem digitRunLine : digitRun Char.isDigit (cs ++ '\n' :: rest) = (cs, '\n' :: rest) := by
  induction cs with
  | nil =>
    unfold digitRun
    rfl
  | cons c cs ih =>
    have own := digits c List.mem_cons_self
    have tail := ih fun d mem => digits d (List.mem_cons_of_mem _ mem)
    rw [List.cons_append]
    unfold digitRun
    split
    · rename_i same
      obtain ⟨rfl, -⟩ := List.cons.inj same
      contradiction
    · rename_i same
      obtain ⟨rfl, rfl⟩ := List.cons.inj same
      rw [if_pos own, tail]
    · contradiction

theorem digitsLine (some' : cs ≠ []) : Toml.digits Char.isDigit (cs ++ '\n' :: rest) = some (cs, '\n' :: rest) := by
  obtain ⟨c, cs, rfl⟩ := List.exists_cons_of_ne_nil some'
  have tail := digitRunLine (fun d mem => digits d (List.mem_cons_of_mem _ mem)) rest
  simp [Toml.digits, digits c List.mem_cons_self, tail]

theorem expectStops {c : Char} (mark : c.isDigit = false) (unbroken : c ≠ '\n') :
    expectChar c (cs ++ '\n' :: rest) = none := by
  cases cs with
  | nil => simp [expectChar, unbroken.symm]
  | cons d cs =>
    have other : d ≠ c := by
      rintro rfl
      simp [digits d List.mem_cons_self] at mark
    simp [expectChar, other]

theorem fixedStops {count m : Nat} {after : List Char}
    (fixed : fixedDigits count (cs ++ '\n' :: rest) = some (m, after)) {c : Char} (mark : c.isDigit = false)
    (unbroken : c ≠ '\n') : expectChar c after = none := by
  simp only [fixedDigits] at fixed
  split at fixed <;> cases fixed
  rename_i all
  by_cases inside : count ≤ cs.length
  · rw [List.drop_append_of_le_length inside]
    exact expectStops (fun d mem => digits d (List.mem_of_mem_drop mem)) rest mark unbroken
  · -- the line feed would be among the digits
    have feed : '\n' ∈ (cs ++ '\n' :: rest).take count := by
      rw [List.take_append]
      obtain ⟨k, more⟩ : ∃ k, count - cs.length = k + 1 := ⟨count - cs.length - 1, by omega⟩
      simp [more]
    simp only [Bool.and_eq_true, List.all_eq_true] at all
    exact absurd (all.2 _ feed) (by decide)

theorem dateStops : dateText (cs ++ '\n' :: rest) = none := by
  unfold dateText
  cases fixed : fixedDigits 4 (cs ++ '\n' :: rest) with
  | none => rfl
  | some found =>
    obtain ⟨m, after⟩ := found
    simp [fixedStops digits rest fixed (c := '-') rfl (by decide)]

theorem timeStops : timeText (cs ++ '\n' :: rest) = none := by
  unfold timeText
  cases fixed : fixedDigits 2 (cs ++ '\n' :: rest) with
  | none => rfl
  | some found =>
    obtain ⟨m, after⟩ := found
    simp [fixedStops digits rest fixed (c := ':') rfl (by decide)]

theorem digitsOther (some' : cs ≠ []) {d : Char} (mark : d.isDigit = false) (tail : List Char) :
    cs ++ '\n' :: rest ≠ d :: tail := by
  obtain ⟨c, cs, rfl⟩ := List.exists_cons_of_ne_nil some'
  intro same
  obtain ⟨rfl, -⟩ := List.cons.inj same
  simp [digits c List.mem_cons_self] at mark

theorem signStops (some' : cs ≠ []) : sign (cs ++ '\n' :: rest) = (false, cs ++ '\n' :: rest) := by
  have other {d : Char} (mark : d.isDigit = false) := digitsOther digits rest some' mark
  unfold sign
  split
  · exact absurd (by assumption) (other rfl _)
  · exact absurd (by assumption) (other rfl _)
  · rfl

end

theorem wholeDecimal (n : Nat) (rest : List Char) :
    wholeDigits (decimal n ++ '\n' :: rest) = some (decimal n, '\n' :: rest) := by
  unfold wholeDigits
  split
  · rename_i tail same
    rcases Nat.eq_zero_or_pos n with rfl | pos
    · cases same
      rfl
    · obtain ⟨c, cs, here⟩ := List.exists_cons_of_ne_nil (decimalNotEmpty n)
      have head := decimalHead pos
      rw [here] at head same
      exact absurd (congrArg some (List.cons.inj same).1) head
  · exact digitsLine (decimalDigits n) rest (decimalNotEmpty n)

section
variable (n : Nat) (rest : List Char)

theorem decimalOther {d : Char} (mark : d.isDigit = false) (tail : List Char) : decimal n ++ '\n' :: rest ≠ d :: tail :=
  digitsOther (decimalDigits n) rest (decimalNotEmpty n) mark tail

theorem decimalUnsigned : sign (decimal n ++ '\n' :: rest) = (false, decimal n ++ '\n' :: rest) :=
  signStops (decimalDigits n) rest (decimalNotEmpty n)

theorem notFloat : float (decimal n ++ '\n' :: rest) = none := by
  have special : specialFloat (decimal n ++ '\n' :: rest) = none := by
    simp only [specialFloat, decimalUnsigned]
    split
    · exact absurd (by assumption) (decimalOther n rest rfl _)
    · exact absurd (by assumption) (decimalOther n rest rfl _)
    · rfl
  have decimals : decimalFloat (decimal n ++ '\n' :: rest) = none := by
    have noFraction : fraction ('\n' :: rest) = none := rfl
    have noExponent : exponent ('\n' :: rest) = none := rfl
    simp only [decimalFloat, decimalUnsigned, wholeDecimal, noFraction, noExponent, bind, Option.bind_some,
      Option.map_none, Option.bind_none]
  rw [float, special, decimals]

theorem notMoment : moment (decimal n ++ '\n' :: rest) = none := by
  rw [moment, dateStops (decimalDigits n) rest, timeStops (decimalDigits n) rest]
  rfl

theorem notBoolean : boolean (decimal n ++ '\n' :: rest) = none := by
  unfold boolean
  split
  · exact absurd (by assumption) (decimalOther n rest rfl _)
  · exact absurd (by assumption) (decimalOther n rest rfl _)
  · rfl

theorem notString : anyString (decimal n ++ '\n' :: rest) = none := by
  unfold anyString
  split
  · exact absurd (by assumption) (decimalOther n rest rfl _)
  · exact absurd (by assumption) (decimalOther n rest rfl _)
  · exact absurd (by assumption) (decimalOther n rest rfl _)
  · unfold literalString
    split
    · exact absurd (by assumption) (decimalOther n rest rfl _)
    · rfl

theorem decimalBase {d : Char} (unbroken : d ≠ '\n') (tail : List Char) :
    decimal n ++ '\n' :: rest ≠ '0' :: d :: tail := by
  intro same
  rcases Nat.eq_zero_or_pos n with rfl | pos
  · obtain ⟨-, second⟩ := List.cons.inj (same : '0' :: '\n' :: rest = '0' :: d :: tail)
    exact unbroken (List.cons.inj second).1.symm
  · have head := decimalHead pos
    obtain ⟨c, cs, here⟩ := List.exists_cons_of_ne_nil (decimalNotEmpty n)
    rw [here] at head same
    exact head (congrArg some (List.cons.inj same).1)

theorem integerReads (fits : fitsInteger n = true) :
    integer (decimal n ++ '\n' :: rest) = some ((n : Int), '\n' :: rest) := by
  have decimals : decimalInteger (decimal n ++ '\n' :: rest) = some ((n : Int), '\n' :: rest) := by
    simp only [decimalInteger, decimalUnsigned, wholeDecimal, ofDigitsDecimal, bind, Option.bind_some,
      Bool.false_eq_true, if_false, fits, if_true]
  unfold integer
  split
  · exact absurd (by assumption) (decimalBase n rest (by decide) _)
  · exact absurd (by assumption) (decimalBase n rest (by decide) _)
  · exact absurd (by assumption) (decimalBase n rest (by decide) _)
  · exact decimals

end

theorem integerStands {n : Nat} (fits : fitsInteger n = true) : Stands (decimal n) (.integer n) := by
  have begins : Begins (decimal n) := by
    obtain ⟨c, cs, here⟩ := List.exists_cons_of_ne_nil (decimalNotEmpty n)
    have digit := decimalDigits n c (here ▸ List.mem_cons_self)
    exact ⟨c, cs, here, .inl (by simp [isBareChar, Char.isAlphanum, digit])⟩
  refine ⟨begins, fun rest => ?_⟩
  rw [scalarRead (beginsAppend begins _), scalarValue, notString, notBoolean, notMoment, notFloat,
    integerReads n rest fits]
  rfl

end TunnelRelay.Toml
