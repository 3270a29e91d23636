import TunnelRelay.Proofs.Toml.Strings
import TunnelRelay.Toml.Line

/-! Lines read back: written keys, integers that a document can hold, headers, and
assignments of values whose text is known to be read. -/
namespace TunnelRelay.Toml
open Text

theorem bareChar {cs : List Char} (bare : isBareKey cs = true) : cs ≠ [] ∧ ∀ c ∈ cs, isBareChar c = true := by
  simpa [isBareKey, isBareChar] using bare

theorem bareReads {cs : List Char} (bare : isBareKey cs = true) {rest : List Char}
    (ends : ∀ c ∈ rest.head?, isBareChar c = false) : keyPart (cs ++ rest) = some (String.ofList cs, rest) := by
  obtain ⟨some', all⟩ := bareChar bare
  have takes : (cs ++ rest).takeWhile isBareChar = cs := by
    rw [List.takeWhile_append_of_pos all]
    cases rest with
    | nil => simp
    | cons c rest => simp [ends c rfl]
  obtain ⟨c, tail, rfl⟩ := List.exists_cons_of_ne_nil some'
  have first := all c List.mem_cons_self
  unfold keyPart
  split
  · rename_i same
    cases same
    contradiction
  · rename_i same
    cases same
    contradiction
  · simp only [takes, List.isEmpty_cons, Bool.false_eq_true, if_false, List.drop_left]

theorem keyForm (s : String) :
    isBareKey s.toList = true ∧ writeKey s = s.toList ∨
      (∀ c ∈ s.toList, isControl c = false ∧ c ≠ '\'') ∧ writeKey s = '\'' :: s.toList ++ ['\''] ∨
      writeKey s = '"' :: escapedLine s.toList ++ ['"'] := by
  unfold writeKey
  dsimp only
  split
  · rename_i bare
    exact .inl ⟨bare, rfl⟩
  · split
    · rename_i literal
      simp only [Bool.and_eq_true, Bool.not_eq_true', List.any_eq_false, List.contains_eq_mem,
        decide_eq_false_iff_not, Bool.not_eq_true] at literal
      refine .inr (.inl ⟨fun c mem => ⟨literal.1.2 c mem, fun same => literal.2 (same ▸ mem)⟩, rfl⟩)
    · exact .inr (.inr rfl)

theorem keyReads (s : String) {rest : List Char} (ends : ∀ c ∈ rest.head?, isBareChar c = false) :
    keyPart (writeKey s ++ rest) = some (s, rest) := by
  rcases keyForm s with ⟨bare, form⟩ | ⟨plain, form⟩ | form
  · rw [form, bareReads bare ends, String.ofList_toList]
  · simp only [form, List.cons_append, List.append_assoc, List.nil_append, keyPart, literalWritten plain,
      String.ofList_toList]
  · simp only [form, List.cons_append, List.append_assoc, List.nil_append, keyPart, basicWritten,
      String.ofList_toList]

def Begins (cs : List Char) : Prop :=
  ∃ c rest, cs = c :: rest ∧ (isBareChar c = true ∨ c = '"' ∨ c = '\'')

section
variable {cs : List Char}

theorem beginsOther (begins : Begins cs) {d : Char} (bare : isBareChar d = false) (basic : d ≠ '"')
    (literal : d ≠ '\'') (rest : List Char) : cs ≠ d :: rest := by
  obtain ⟨c, tail, rfl, first⟩ := begins
  intro same
  cases same
  rcases first with own | rfl | rfl
  · simp [bare] at own
  · exact basic rfl
  · exact literal rfl

theorem beginsSkip (begins : Begins cs) : skipBlanks cs = cs := by
  obtain ⟨c, rest, rfl, first⟩ := id begins
  have solid : isBlank c = false := by
    cases blank : isBlank c with
    | false => rfl
    | true =>
      simp only [isBlank, Bool.or_eq_true, beq_iff_eq] at blank
      rcases blank with rfl | rfl <;> exact absurd rfl (beginsOther begins rfl (by decide) (by decide) rest)
  simp [skipBlanks, solid]

theorem beginsGoesOn (begins : Begins cs) : lineEnd cs = none := by
  have uncommented : skipComment cs = cs := by
    unfold skipComment
    split
    · exact absurd rfl (beginsOther begins rfl (by decide) (by decide) _)
    · rfl
  obtain ⟨c, rest, rfl, -⟩ := id begins
  simp only [lineEnd, beginsSkip begins, uncommented]
  unfold newline
  split
  · rename_i same
    exact absurd same (beginsOther begins rfl (by decide) (by decide) _)
  · rename_i same
    exact absurd same (beginsOther begins rfl (by decide) (by decide) _)
  · rfl

theorem beginsAppend (begins : Begins cs) (rest : List Char) : Begins (cs ++ rest) := by
  obtain ⟨c, tail, rfl, first⟩ := begins
  exact ⟨c, tail ++ rest, rfl, first⟩

end

theorem keyBegins (s : String) : Begins (writeKey s) := by
  rcases keyForm s with ⟨bare, form⟩ | ⟨-, form⟩ | form
  · obtain ⟨some', all⟩ := bareChar bare
    obtain ⟨c, rest, here⟩ := List.exists_cons_of_ne_nil some'
    exact ⟨c, rest, form.trans here, .inl (all c (here ▸ List.mem_cons_self))⟩
  · exact ⟨_, _, form, .inr (.inr rfl)⟩
  · exact ⟨_, _, form, .inr (.inl rfl)⟩

section
variable {rest : List Char} (ends : ∀ c ∈ rest.head?, isBareChar c = false) (after : (skipBlanks rest).head? ≠ some '.')
include ends after

theorem lastKeyPart (room : Nat) (s : String) :
    keyParts (room + 1) (writeKey s ++ rest) = some ([s], skipBlanks rest) := by
  simp only [keyParts, beginsSkip (beginsAppend (keyBegins s) rest), keyReads s ends, bind, Option.bind_some]
  split
  · rename_i same
    rw [same] at after
    contradiction
  · rfl

theorem plainKey (s : String) : key (writeKey s ++ rest) = some (([], s), skipBlanks rest) := by
  simp only [key, depthLimit, Nat.reduceSub, lastKeyPart ends after 78 s, bind, Option.bind_some]
  rfl

theorem dottedKey (t s : String) :
    key (writeKey t ++ '.' :: (writeKey s ++ rest)) = some (([t], s), skipBlanks rest) := by
  have dot : skipBlanks ('.' :: (writeKey s ++ rest)) = '.' :: (writeKey s ++ rest) := rfl
  have first := @keyReads t ('.' :: (writeKey s ++ rest)) (by rintro c ⟨⟩; rfl)
  have skips := beginsSkip (beginsAppend (keyBegins t) ('.' :: (writeKey s ++ rest)))
  have parts : keyParts 79 (writeKey t ++ '.' :: (writeKey s ++ rest)) = some ([t, s], skipBlanks rest) := by
    rw [keyParts]
    simp only [skips, first, bind, Option.bind_some, dot, lastKeyPart ends after 77 s]
  simp only [key, depthLimit, Nat.reduceSub, parts, bind, Option.bind_some]
  rfl

end

theorem lineEndHere (rest : List Char) : lineEnd ('\n' :: rest) = some rest := rfl

theorem headerRead {cs rest : List Char} {path : List String} {name : String} (begins : Begins cs)
    (reads : key (cs ++ ']' :: '\n' :: rest) = some ((path, name), ']' :: '\n' :: rest)) :
    line ('[' :: (cs ++ ']' :: '\n' :: rest)) = some (some (.header path name), rest) := by
  have opens : skipBlanks ('[' :: (cs ++ ']' :: '\n' :: rest)) = '[' :: (cs ++ ']' :: '\n' :: rest) := rfl
  have single := beginsOther (beginsAppend begins (']' :: '\n' :: rest)) (d := '[') rfl (by decide) (by decide)
  unfold line
  rw [opens]
  split
  · rename_i same
    exact absurd (List.cons.inj same).2 (single _)
  · rename_i same
    cases same
    simp only [header, reads, expectChar, lineEndHere, bind, Option.bind_some, beq_self_eq_true, if_true,
      Option.map_some]
  · rename_i other
    exact absurd rfl (other _)

theorem closesBare {rest : List Char} : ∀ c ∈ (']' :: rest).head?, isBareChar c = false := by
  rintro c ⟨⟩
  rfl

theorem plainHeader (s : String) (rest : List Char) :
    line ('[' :: (writeKey s ++ ']' :: '\n' :: rest)) = some (some (.header [] s), rest) :=
  headerRead (keyBegins s) (plainKey closesBare (by simp [skipBlanks, isBlank]) s)

theorem dottedHeader (t s : String) (rest : List Char) :
    line ('[' :: (writeKey t ++ '.' :: (writeKey s ++ ']' :: '\n' :: rest))) = some (some (.header [t] s), rest) := by
  have reads : key ((writeKey t ++ '.' :: writeKey s) ++ ']' :: '\n' :: rest) =
      some (([t], s), ']' :: '\n' :: rest) := by
    rw [List.append_assoc]
    exact dottedKey closesBare (by simp [skipBlanks, isBlank]) t s
  have joined := headerRead (beginsAppend (keyBegins t) _) reads
  rwa [List.append_assoc] at joined

structure Stands (text : List Char) (v : Value) : Prop where
  begins : Begins text
  reads : ∀ rest, value (text ++ '\n' :: rest) = some (v, '\n' :: rest)

theorem assignmentRead {text : List Char} {v : Value} (stands : Stands text v) (s : String) (rest : List Char) :
    line (writeKey s ++ ' ' :: '=' :: ' ' :: (text ++ '\n' :: rest)) = some (some (.assignment [] s v), rest) := by
  have begins := beginsAppend (keyBegins s) (' ' :: '=' :: ' ' :: (text ++ '\n' :: rest))
  have bracket := beginsOther begins (d := '[') rfl (by decide) (by decide)
  have reads : key (writeKey s ++ ' ' :: '=' :: ' ' :: (text ++ '\n' :: rest)) =
      some (([], s), '=' :: ' ' :: (text ++ '\n' :: rest)) :=
    plainKey (by rintro c ⟨⟩; rfl) (by simp [skipBlanks, isBlank]) s
  have blank : skipBlanks (' ' :: (text ++ '\n' :: rest)) = text ++ '\n' :: rest :=
    beginsSkip (beginsAppend stands.begins _)
  unfold line
  rw [beginsSkip begins]
  split
  · exact absurd (by assumption) (bracket _)
  · exact absurd (by assumption) (bracket _)
  · simp only [beginsGoesOn begins, assignment, reads, expectChar, beq_self_eq_true, if_true, blank, stands.reads,
      lineEndHere, bind, Option.bind_some, Option.map_some]

theorem scalarRead {cs : List Char} (begins : Begins cs) : value cs = scalarValue cs := by
  unfold value depthLimit valueWithin
  split
  · exact absurd rfl (beginsOther begins rfl (by decide) (by decide) _)
  · exact absurd rfl (beginsOther begins rfl (by decide) (by decide) _)
  · rfl

theorem stringStands (s : String) : Stands (writeString s) (.string s) := by
  have begins : Begins (writeString s) := by
    cases form : valueForm s.toList with
    | basic => exact ⟨_, _, by simp only [writeString, form]; rfl, .inr (.inl rfl)⟩
    | literal => exact ⟨_, _, by simp only [writeString, form]; rfl, .inr (.inr rfl)⟩
    | longBasic => exact ⟨_, _, by simp only [writeString, form]; rfl, .inr (.inl rfl)⟩
    | longLiteral => exact ⟨_, _, by simp only [writeString, form]; rfl, .inr (.inr rfl)⟩
  refine ⟨begins, fun rest => ?_⟩
  rw [scalarRead (beginsAppend begins _), scalarValue, stringReads]

theorem trueStands : Stands "true".toList (.boolean true) := by
  refine ⟨⟨'t', ['r', 'u', 'e'], rfl, .inl rfl⟩, fun rest => rfl⟩

theorem falseStands : Stands "false".toList (.boolean false) := by
  refine ⟨⟨'f', ['a', 'l', 's', 'e'], rfl, .inl rfl⟩, fun rest => rfl⟩

end TunnelRelay.Toml
