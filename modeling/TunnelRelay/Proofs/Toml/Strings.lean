import TunnelRelay.Toml.Text
import TunnelRelay.Toml.Written

/-! Strings read back. Whatever form a string is written in, reading it gives the string
and stops right after the form. -/
namespace TunnelRelay.Toml
open Text

theorem plainChar {c : Char} (plain : isControl c = false) : isCommentChar c = true := by
  simp only [isControl, Bool.or_eq_false_iff, Bool.and_eq_false_iff, decide_eq_false_iff_not, bne_eq_false_iff_eq,
    beq_eq_false_iff_ne] at plain
  simp only [isCommentChar, Bool.or_eq_true, Bool.and_eq_true, decide_eq_true_eq, beq_iff_eq]
  obtain ⟨above | tab, other⟩ := plain
  · omega
  · exact .inl (.inl tab)

theorem controlSmall {c : Char} (control : isControl c = true) : c.toNat < 128 := by
  simp only [isControl, Bool.or_eq_true, Bool.and_eq_true, decide_eq_true_eq, beq_iff_eq] at control
  omega

theorem smallEscapes : ∀ n < 128, (unicodeEscape (Char.ofNat n)).take 2 = ['\\', 'u'] ∧
    ((unicodeEscape (Char.ofNat n)).drop 2).length = 4 ∧
    ((unicodeEscape (Char.ofNat n)).drop 2).all (isDigitOf 16) = true ∧
    scalar ((unicodeEscape (Char.ofNat n)).drop 2) = some (Char.ofNat n) := by
  decide +kernel

theorem unicodeReads {c : Char} (control : isControl c = true) :
    ∃ ds, unicodeEscape c = '\\' :: 'u' :: ds ∧ ∀ rest, codePoint 4 (ds ++ rest) = some (c, rest) := by
  have escapes := smallEscapes c.toNat (controlSmall control)
  rw [Char.ofNat_toNat] at escapes
  obtain ⟨opening, four, digits, named⟩ := escapes
  refine ⟨(unicodeEscape c).drop 2, ?_, fun rest => ?_⟩
  · conv => lhs; rw [← List.take_append_drop 2 (unicodeEscape c), opening]
    rfl
  · simp [codePoint, List.take_left' four, List.drop_left' four, four, digits, named]

inductive Written (c : Char) : List Char → Prop where
  | plain (calm : isControl c = false) (free : c ≠ '\\') : Written c [c]
  | escaped {tail : List Char} (reads : ∀ rest, escape (tail ++ rest) = some (c, rest))
      (goesOn : ∀ rest, foldedLine (tail ++ rest) = none) : Written c ('\\' :: tail)

theorem unicodeWritten {c : Char} (control : isControl c = true) : Written c (unicodeEscape c) := by
  obtain ⟨ds, written, reads⟩ := unicodeReads control
  rw [written]
  exact .escaped reads fun rest => rfl

theorem escapedWritten (c : Char) : Written c (escapedChar c) := by
  unfold escapedChar
  split
  case h_6 free =>
    split
    · rename_i control
      exact unicodeWritten control
    · rename_i plain
      exact .plain (by simpa using plain) free
  all_goals exact .escaped (fun rest => rfl) fun rest => rfl

theorem lineFeedWritten : Written '\n' ['\\', 'n'] := .escaped (fun _ => rfl) fun _ => rfl

theorem quoteWritten : Written '"' ['\\', '"'] := .escaped (fun _ => rfl) fun _ => rfl

theorem writtenLength {c : Char} {cs : List Char} (written : Written c cs) : 0 < cs.length := by
  cases written <;> simp

theorem basicChar {c : Char} {cs : List Char} (written : Written c cs) (other : c = '"' → cs ≠ [c]) (n : Nat)
    (rest : List Char) :
    basicBody (n + 1) (cs ++ rest) = (basicBody n rest).map fun (ds, rest) => (c :: ds, rest) := by
  cases written with
  | plain calm free =>
    have unquoted : c ≠ '"' := fun same => other same rfl
    have basic : isBasicChar c = true := by simp [isBasicChar, plainChar calm, unquoted, free]
    simp only [List.singleton_append, basicBody, beq_iff_eq, unquoted, free, basic, if_false, if_true]
    cases basicBody n rest <;> rfl
  | escaped reads =>
    have opens : ('\\' == '"') = false := rfl
    simp only [List.cons_append, basicBody, opens, Bool.false_eq_true, if_false, beq_self_eq_true, if_true, reads,
      bind, Option.bind_some]
    cases basicBody n rest <;> rfl

theorem escapedLineCons (c : Char) (cs : List Char) :
    ∃ own, escapedLine (c :: cs) = own ++ escapedLine cs ∧ Written c own ∧ (c = '"' → own ≠ [c]) := by
  simp only [escapedLine, List.flatMap_cons]
  split
  · exact ⟨_, rfl, quoteWritten, by simp⟩
  · exact ⟨_, rfl, lineFeedWritten, by simp⟩
  · rename_i unquoted broken
    exact ⟨_, rfl, escapedWritten c, fun same => absurd same unquoted⟩

theorem basicReads (cs rest : List Char) {n : Nat} (enough : (escapedLine cs ++ '"' :: rest).length ≤ n) :
    basicBody n (escapedLine cs ++ '"' :: rest) = some (cs, rest) := by
  induction cs generalizing n with
  | nil =>
    obtain ⟨m, rfl⟩ : ∃ m, n = m + 1 := ⟨n - 1, by simp [escapedLine] at enough; omega⟩
    rfl
  | cons c cs ih =>
    obtain ⟨own, split, written, other⟩ := escapedLineCons c cs
    have some' := writtenLength written
    rw [split, List.append_assoc, List.length_append] at enough
    obtain ⟨m, rfl⟩ : ∃ m, n = m + 1 := ⟨n - 1, by omega⟩
    rw [split, List.append_assoc, basicChar written other, ih (by omega)]
    rfl

theorem basicWritten (cs rest : List Char) :
    basicString ('"' :: (escapedLine cs ++ '"' :: rest)) = some (String.ofList cs, rest) := by
  simp only [basicString, basicReads cs rest (Nat.le_succ _), Option.map_some]

theorem literalReads {cs : List Char} (plain : ∀ c ∈ cs, isControl c = false ∧ c ≠ '\'') (rest : List Char) :
    literalBody (cs ++ '\'' :: rest) = some (cs, rest) := by
  induction cs with
  | nil => rfl
  | cons c cs ih =>
    obtain ⟨calm, free⟩ := plain c List.mem_cons_self
    have literal : isLiteralChar c = true := by simp [isLiteralChar, plainChar calm, free]
    have tail := ih fun d mem => plain d (List.mem_cons_of_mem _ mem)
    simp [literalBody, free, literal, tail]

theorem literalWritten {cs : List Char} (plain : ∀ c ∈ cs, isControl c = false ∧ c ≠ '\'') (rest : List Char) :
    literalString ('\'' :: (cs ++ '\'' :: rest)) = some (String.ofList cs, rest) := by
  simp only [literalString, literalReads plain, Option.map_some]

section
variable {quote : Char} {cs ds rest : List Char}

def LongReads (quote : Char) (cs ds rest : List Char) : Prop :=
  ∀ n, cs.length ≤ n → longBody quote n cs = some (ds, rest)

theorem quoteRunReplicate (k : Nat) (apart : cs.head? ≠ some quote) :
    quoteRun quote (List.replicate k quote ++ cs) = (k, cs) := by
  have stops : cs.takeWhile (· == quote) = [] ∧ cs.dropWhile (· == quote) = cs := by
    cases cs with
    | nil => simp
    | cons c rest =>
      have other : (c == quote) = false := by simpa using apart
      simp [List.takeWhile, List.dropWhile, other]
  induction k with
  | zero => simp [quoteRun, stops]
  | succ k ih =>
    simp only [quoteRun, Prod.mk.injEq] at ih
    simp only [quoteRun, List.replicate_succ, List.cons_append, List.takeWhile_cons, List.dropWhile_cons,
      beq_self_eq_true, if_true, List.length_cons, ih]

theorem longRow {k : Nat} (few : k ≤ 2) (apart : cs.head? ≠ some quote) (reads : LongReads quote cs ds rest) :
    LongReads quote (List.replicate k quote ++ cs) (List.replicate k quote ++ ds) rest := by
  intro n enough
  cases k with
  | zero => exact reads n enough
  | succ j =>
    simp only [List.replicate_succ, List.cons_append, List.length_cons, List.length_append] at enough
    obtain ⟨m, rfl⟩ : ∃ m, n = m + 1 := ⟨n - 1, by omega⟩
    have fewer : j < 2 := by omega
    simp only [List.replicate_succ, List.cons_append, longBody, beq_self_eq_true, if_true, quoteRunReplicate j apart,
      fewer, reads m (by omega)]
    rfl

theorem longEnd {k : Nat} (few : k ≤ 2) (apart : rest.head? ≠ some quote) :
    LongReads quote (List.replicate k quote ++ quote :: quote :: quote :: rest) (List.replicate k quote) rest := by
  intro n enough
  have row : List.replicate k quote ++ quote :: quote :: quote :: rest =
      quote :: (List.replicate (k + 2) quote ++ rest) := by
    calc
      _ = List.replicate k quote ++ List.replicate 3 quote ++ rest := (List.append_assoc ..).symm
      _ = List.replicate (k + 3) quote ++ rest := by rw [List.replicate_append_replicate]
  rw [row] at enough ⊢
  obtain ⟨m, rfl⟩ : ∃ m, n = m + 1 := ⟨n - 1, by simp at enough; omega⟩
  have many : ¬ k + 2 < 2 := by omega
  have fits : k + 2 < 5 := by omega
  simp only [longBody, beq_self_eq_true, if_true, quoteRunReplicate (k + 2) apart, many, if_false, fits,
    Nat.add_sub_cancel]

theorem longFeed (other : quote ≠ '\n') (reads : LongReads quote cs ds rest) :
    LongReads quote ('\n' :: cs) ('\n' :: ds) rest := by
  intro n enough
  obtain ⟨m, rfl⟩ : ∃ m, n = m + 1 := ⟨n - 1, by simp at enough; omega⟩
  have unquoted : ('\n' == quote) = false := by simpa using other.symm
  have plain : ('\n' == '\\') = false := rfl
  have tail := reads m (by simpa using enough)
  simp only [longBody, unquoted, plain, Bool.false_and, Bool.false_eq_true, if_false, newline, tail]
  rfl

theorem longPlain {c : Char} (calm : isControl c = false) (unquoted : c ≠ quote) (free : quote = '"' → c ≠ '\\')
    (reads : LongReads quote cs ds rest) : LongReads quote (c :: cs) (c :: ds) rest := by
  intro n enough
  obtain ⟨m, rfl⟩ : ∃ m, n = m + 1 := ⟨n - 1, by simp at enough; omega⟩
  have tail := reads m (by simpa using enough)
  have unescaped : (c == '\\' && quote == '"') = false := by
    simp only [Bool.and_eq_false_imp, beq_iff_eq, beq_eq_false_iff_ne]
    exact fun same basic => free basic same
  have unbroken : newline (c :: cs) = none := by
    unfold newline
    split
    · rename_i same
      cases same
      contradiction
    · rename_i same
      cases same
      contradiction
    · rfl
  have unquoted' : (c == quote) = false := by simpa using unquoted
  simp only [longBody, unquoted', unescaped, Bool.false_eq_true, if_false, unbroken, plainChar calm, if_true, tail]
  rfl

end

theorem longChar {c : Char} {own cs ds rest : List Char} (written : Written c own) (other : c = '"' → own ≠ [c])
    (reads : LongReads '"' cs ds rest) : LongReads '"' (own ++ cs) (c :: ds) rest := by
  cases written with
  | plain calm free => exact longPlain calm (fun same => other same rfl) (fun _ => free) reads
  | @escaped tail reads' goesOn =>
    intro n enough
    obtain ⟨m, rfl⟩ : ∃ m, n = m + 1 := ⟨n - 1, by simp at enough; omega⟩
    have rest' := reads m (by simp at enough; omega)
    have unquoted : ('\\' == '"') = false := rfl
    simp only [List.cons_append, longBody, unquoted, Bool.false_eq_true, if_false, beq_self_eq_true, Bool.and_self,
      if_true, goesOn, reads', bind, Option.bind_some, rest']

theorem writtenApart {c : Char} {own : List Char} (written : Written c own) (other : c ≠ '"') (cs : List Char) :
    (own ++ cs).head? ≠ some '"' := by
  cases written with
  | plain => simpa using other
  | escaped => simp

theorem escapedLongReads (cs : List Char) {rest : List Char} (apart : rest.head? ≠ some '"') {row : Nat}
    (few : row ≤ 2) :
    LongReads '"' (List.replicate row '"' ++ (escapedLong row cs ++ '"' :: '"' :: '"' :: rest))
      (List.replicate row '"' ++ cs) rest := by
  induction cs generalizing row with
  | nil =>
    rw [List.append_nil]
    exact longEnd few apart
  | cons c cs ih =>
    have anew := ih (Nat.zero_le 2)
    by_cases quoted : c = '"'
    · subst quoted
      by_cases third : row = 2
      · subst third
        simp only [escapedLong, if_true, List.cons_append]
        refine longRow few (by simp) ?_
        exact longChar quoteWritten (by simp) anew
      · have more := @ih (row + 1) (by omega)
        simp only [escapedLong, if_true, if_neg third]
        rw [List.replicate_succ'] at more
        simpa using more
    · by_cases broken : c = '\n'
      · subst broken
        simp only [escapedLong, quoted, if_false, if_true, List.cons_append]
        exact longRow few (by simp) (longFeed (by decide) anew)
      · have own := escapedWritten c
        simp only [escapedLong, quoted, broken, if_false, List.append_assoc]
        refine longRow few (writtenApart own quoted _) (longChar own (fun same => absurd same quoted) anew)

theorem literalLongReads {quote : Char} (other : quote ≠ '\n') {cs : List Char} {rest : List Char}
    (apart : rest.head? ≠ some quote) (plain : ∀ c ∈ cs, isControl c = false ∨ c = '\n') (unbasic : quote ≠ '"')
    {row : Nat} (few : longestRow quote row cs ≤ 2) :
    LongReads quote (List.replicate row quote ++ (cs ++ quote :: quote :: quote :: rest))
      (List.replicate row quote ++ cs) rest := by
  induction cs generalizing row with
  | nil =>
    rw [List.append_nil]
    exact longEnd few apart
  | cons c cs ih =>
    have tail {row : Nat} := @ih (fun d mem => plain d (List.mem_cons_of_mem _ mem)) row
    simp only [longestRow] at few
    split at few
    · rename_i same
      subst same
      have more := tail few
      rw [List.replicate_succ'] at more
      simpa using more
    · rename_i unquoted
      have anew := @tail 0 (by omega)
      refine longRow (by omega) (by simpa using unquoted) ?_
      rcases plain c List.mem_cons_self with calm | rfl
      · exact longPlain calm unquoted (fun same => absurd same unbasic) anew
      · exact longFeed other anew

theorem newlineCalm {cs : List Char} (calm : ∀ c ∈ cs.head?, isControl c = false) : newline cs = none := by
  unfold newline
  split
  · exact absurd (calm '\n' rfl) (by decide)
  · exact absurd (calm '\r' rfl) (by decide)
  · rfl

/- A line feed in front keeps those of the text from being dropped. -/
theorem longOpened {quote : Char} {cs text ds rest : List Char} (reads : LongReads quote text ds rest)
    (calm : '\n' ∉ cs → ∀ c ∈ text.head?, isControl c = false) :
    longString quote ((if cs.contains '\n' then ['\n'] else []) ++ text) = some (ds, rest) := by
  unfold longString
  split
  · exact reads _ (Nat.le_add_right _ 2)
  · rename_i unbroken
    have stays : newline ([] ++ text) = none := newlineCalm (calm (by simpa using unbroken))
    rw [stays]
    exact reads _ (by simp)

theorem writtenHead {c : Char} {own : List Char} (written : Written c own) (cs : List Char) :
    ∀ d ∈ (own ++ cs).head?, isControl d = false := by
  cases written with
  | plain calm => simpa using calm
  | escaped =>
    rintro d ⟨⟩
    rfl

theorem escapedLongHead {cs : List Char} (unbroken : '\n' ∉ cs) (rest : List Char) :
    ∀ d ∈ (escapedLong 0 cs ++ '"' :: rest).head?, isControl d = false := by
  cases cs with
  | nil =>
    rintro d ⟨⟩
    rfl
  | cons c cs =>
    have other : c ≠ '\n' := fun same => unbroken (same ▸ List.mem_cons_self)
    unfold escapedLong
    by_cases quoted : c = '"'
    · rw [if_pos quoted, if_neg (by decide)]
      rintro d ⟨⟩
      rfl
    · rw [if_neg quoted, if_neg other, List.append_assoc]
      exact writtenHead (escapedWritten c) _

theorem literalHead {cs : List Char} (plain : ∀ c ∈ cs, isControl c = false ∨ c = '\n') (unbroken : '\n' ∉ cs)
    (rest : List Char) : ∀ d ∈ (cs ++ '\'' :: rest).head?, isControl d = false := by
  cases cs with
  | nil =>
    rintro d ⟨⟩
    rfl
  | cons c cs =>
    rintro d ⟨⟩
    exact (plain c List.mem_cons_self).resolve_right fun same => unbroken (same ▸ List.mem_cons_self)

theorem anyBasic {cs : List Char} (few : ∀ rest, cs ≠ '"' :: '"' :: rest) :
    anyString ('"' :: cs) = basicString ('"' :: cs) := by
  unfold anyString
  split
  · rename_i rest same
    exact absurd (List.cons.inj same).2 (few rest)
  · rename_i same
    cases same
  · rename_i same
    rw [same]
  · rename_i other
    exact absurd rfl (other cs)

theorem anyLiteral {cs : List Char} (few : ∀ rest, cs ≠ '\'' :: '\'' :: rest) :
    anyString ('\'' :: cs) = literalString ('\'' :: cs) := by
  unfold anyString
  split
  · rename_i same
    cases same
  · rename_i rest same
    exact absurd (List.cons.inj same).2 (few rest)
  · rename_i same
    cases same
  · rfl

theorem literalForm {cs : List Char} (form : valueForm cs = .literal) :
    cs ≠ [] ∧ ∀ c ∈ cs, isControl c = false ∧ c ≠ '\'' := by
  unfold valueForm at form
  dsimp only at form
  split at form <;> try contradiction
  rename_i unbasic
  split at form
  · rename_i literal
    simp only [Bool.and_eq_true, Bool.not_eq_true', List.any_eq_false, Bool.and_eq_true, bne_iff_ne, ne_eq,
      not_and, Decidable.not_not, List.contains_eq_mem, decide_eq_false_iff_not] at literal
    obtain ⟨⟨unbroken, calm⟩, unquoted⟩ := literal
    refine ⟨fun empty => unbasic (by simp [empty]), fun c mem => ⟨?_, fun same => unquoted (same ▸ mem)⟩⟩
    cases control : isControl c with
    | false => rfl
    | true => exact absurd (calm c mem control ▸ mem) unbroken
  · split at form <;> try contradiction
    split at form <;> try contradiction
    split at form <;> contradiction

theorem longLiteralForm {cs : List Char} (form : valueForm cs = .longLiteral) :
    longestRow '\'' 0 cs ≤ 2 ∧ ∀ c ∈ cs, isControl c = false ∨ c = '\n' := by
  unfold valueForm at form
  dsimp only at form
  split at form <;> try contradiction
  split at form <;> try contradiction
  split at form <;> try contradiction
  split at form
  · rename_i literal
    simp only [Bool.and_eq_true, Bool.not_eq_true', List.any_eq_false, Bool.and_eq_true, bne_iff_ne, ne_eq,
      not_and, Decidable.not_not, decide_eq_true_eq] at literal
    refine ⟨literal.2, fun c mem => ?_⟩
    cases control : isControl c with
    | false => exact .inl rfl
    | true => exact .inr (literal.1 c mem control)
  · split at form <;> contradiction

theorem basicForm (cs rest : List Char) :
    anyString ('"' :: escapedLine cs ++ ['"'] ++ '\n' :: rest) = some (String.ofList cs, '\n' :: rest) := by
  rw [List.append_assoc, List.cons_append, anyBasic ?few]
  · exact basicWritten cs ('\n' :: rest)
  case few =>
    cases cs with
    | nil => simp [escapedLine]
    | cons c cs =>
      obtain ⟨own, split, written, other⟩ := escapedLineCons c cs
      rw [split]
      intro rest same
      cases written with
      | plain => exact other (List.cons.inj same).1 rfl
      | escaped => cases same

theorem stringReads (s : String) (rest : List Char) :
    anyString (writeString s ++ '\n' :: rest) = some (s, '\n' :: rest) := by
  have apart (quote : Char) (other : quote ≠ '\n') : ('\n' :: rest).head? ≠ some quote := by
    simpa using other.symm
  cases form : valueForm s.toList with
  | basic =>
    simp only [writeString, form]
    exact (basicForm s.toList rest).trans (by rw [String.ofList_toList])
  | literal =>
    obtain ⟨some', plain⟩ := literalForm form
    have opens : ∀ tail, s.toList ++ '\'' :: '\n' :: rest ≠ '\'' :: '\'' :: tail := by
      intro tail same
      obtain ⟨c, cs, here⟩ := List.exists_cons_of_ne_nil some'
      rw [here] at same
      exact (plain c (here ▸ List.mem_cons_self)).2 (List.cons.inj same).1
    simp only [writeString, form, List.cons_append, List.append_assoc, List.nil_append]
    rw [anyLiteral opens, literalWritten plain, String.ofList_toList]
  | longBasic =>
    have reads := @longOpened _ s.toList _ _ _ (escapedLongReads s.toList (apart '"' (by decide)) (Nat.zero_le 2))
      fun unbroken => escapedLongHead unbroken _
    simp only [List.replicate_zero, List.nil_append] at reads
    simp only [writeString, form, List.cons_append, List.append_assoc, List.nil_append, anyString, reads,
      Option.map_some, String.ofList_toList]
  | longLiteral =>
    obtain ⟨few, plain⟩ := longLiteralForm form
    have reads := longOpened (literalLongReads (by decide) (apart '\'' (by decide)) plain (by decide) few)
      fun unbroken => literalHead plain unbroken _
    simp only [List.replicate_zero, List.nil_append] at reads
    simp only [writeString, form, List.cons_append, List.append_assoc, List.nil_append, anyString, reads,
      Option.map_some, String.ofList_toList]

end TunnelRelay.Toml
