import Mathlib.Data.List.TakeWhile
import TunnelRelay.Profile

/-! What is read as a locator: the text that a locator is written as, with any number of
slashes before and after it, if none of its three parts is empty or has a slash in it. No
other text is read, and no text as two locators. -/
namespace TunnelRelay.Locator

def Framed (text core : List Char) : Prop :=
  ∃ before after : Nat, text = List.replicate before '/' ++ core ++ List.replicate after '/'

def Part (part : String) : Prop := part ≠ "" ∧ '/' ∉ part.toList

structure Plain (l : Locator) : Prop where
  project : Part l.project
  zone : Part l.zone
  name : Part l.name

def parts (l : Locator) : List String := ["projects", l.project, "zones", l.zone, "instances", l.name]

variable {l : Locator} {text : String} {cs core : List Char}

theorem slashesRow (cs : List Char) :
    cs.takeWhile (· == '/') = List.replicate (cs.takeWhile (· == '/')).length '/' :=
  List.eq_replicate_of_mem fun c mem => by simpa using List.mem_takeWhile_imp mem

theorem trimFrames (cs : List Char) : Framed cs (trimSlashes cs) := by
  have front : cs = cs.takeWhile (· == '/') ++ cs.dropWhile (· == '/') := List.takeWhile_append_dropWhile.symm
  generalize rest : cs.dropWhile (· == '/') = ds at front
  have back : ds.reverse = ds.reverse.takeWhile (· == '/') ++ ds.reverse.dropWhile (· == '/') :=
    List.takeWhile_append_dropWhile.symm
  refine ⟨(cs.takeWhile (· == '/')).length, (ds.reverse.takeWhile (· == '/')).length, ?_⟩
  rw [← slashesRow, ← List.reverse_replicate, ← slashesRow, trimSlashes, rest, List.append_assoc,
    ← List.reverse_append, ← back, List.reverse_reverse]
  exact front

theorem trimRow (n : Nat) (present : core ≠ []) (first : core.head? ≠ some '/') :
    (List.replicate n '/' ++ core).dropWhile (· == '/') = core := by
  rw [List.dropWhile_append_of_pos fun c mem => by simp [List.eq_of_mem_replicate mem]]
  obtain ⟨c, rest, rfl⟩ := List.exists_cons_of_ne_nil present
  exact List.dropWhile_cons_of_neg (by simpa using first)

theorem framedTrims (present : core ≠ []) (first : core.head? ≠ some '/') (last : core.getLast? ≠ some '/')
    (framed : Framed cs core) : trimSlashes cs = core := by
  obtain ⟨before, after, rfl⟩ := framed
  have begins : (core ++ List.replicate after '/').head? ≠ some '/' := by
    rwa [List.head?_append, List.head?_eq_some_head present, Option.some_or, ← List.head?_eq_some_head present]
  rw [trimSlashes, List.append_assoc, trimRow before (by simp [present]) begins, List.reverse_append,
    List.reverse_replicate, trimRow after (by simpa using present) (by simpa using last), List.reverse_reverse]

theorem splitApart {part : List Char} (mem : part ∈ cs.splitOn '/') : '/' ∉ part := by
  induction cs generalizing part with
  | nil =>
    rw [List.splitOn_nil, List.mem_singleton] at mem
    simp [mem]
  | cons c rest ih =>
    obtain ⟨head, tail, found⟩ := List.exists_cons_of_ne_nil (List.splitOn_ne_nil '/' rest)
    have clean (p : List Char) (mem : p ∈ head :: tail) : '/' ∉ p := ih (found ▸ mem)
    rw [List.splitOn_cons_eq_if_modifyHead, found, List.modifyHead_cons] at mem
    split at mem
    · rcases List.mem_cons.mp mem with rfl | later
      · exact List.not_mem_nil
      · exact clean part later
    · rename_i other
      rcases List.mem_cons.mp mem with rfl | later
      · exact List.not_mem_cons_of_ne_of_not_mem (fun same => other (by simp [← same])) (clean head (by simp))
      · exact clean part (List.mem_cons_of_mem _ later)

theorem partsSome {ps : List String} :
    ofParts ps = some l ↔ ps = l.parts ∧ l.project ≠ "" ∧ l.zone ≠ "" ∧ l.name ≠ "" := by
  constructor
  · intro found
    unfold ofParts at found
    split at found <;> try contradiction
    split at found <;> try contradiction
    rename_i project zone name filled
    simp only [Bool.or_eq_true, not_or, String.isEmpty_iff] at filled
    cases found
    exact ⟨rfl, filled.1.1, filled.1.2, filled.2⟩
  · rintro ⟨rfl, project, zone, name⟩
    simp [ofParts, parts, project, zone, name]

theorem renderJoined (l : Locator) : l.render.toList = ['/'].intercalate (l.parts.map String.toList) := by
  simp [render, parts, List.intercalate]

theorem partsClean : (∀ part ∈ l.parts.map String.toList, '/' ∉ part) ↔
    '/' ∉ l.project.toList ∧ '/' ∉ l.zone.toList ∧ '/' ∉ l.name.toList := by
  simp [parts]

theorem parseSome : parse? text = some l ↔ l.Plain ∧ trimSlashes text.toList = l.render.toList := by
  rw [parse?, partsSome, renderJoined]
  constructor
  · rintro ⟨split, project, zone, name⟩
    have apart : (trimSlashes text.toList).splitOn '/' = l.parts.map String.toList := by
      rw [← split, List.map_map]
      simp
    have clean := partsClean.mp fun part mem => splitApart (apart ▸ mem)
    exact ⟨⟨⟨project, clean.1⟩, ⟨zone, clean.2.1⟩, ⟨name, clean.2.2⟩⟩, by rw [← apart, List.intercalate_splitOn]⟩
  · rintro ⟨⟨project, zone, name⟩, same⟩
    have clean := partsClean.mpr ⟨project.2, zone.2, name.2⟩
    rw [same, List.splitOn_intercalate '/' clean (by simp [parts]), List.map_map]
    exact ⟨by simp, project.1, zone.1, name.1⟩

theorem readSome : Locator.read text = .ok l ↔ parse? text = some l := by
  unfold Locator.read
  cases parse? text <;> simp

theorem renderTrimmed (plain : l.Plain) (framed : Framed cs l.render.toList) : trimSlashes cs = l.render.toList := by
  have begins : ∃ rest, l.render.toList = 'p' :: rest := ⟨_, by simp [render]; rfl⟩
  have ends : ∃ before, l.render.toList = before ++ l.name.toList := ⟨_, String.toList_append ..⟩
  have filled : l.name.toList ≠ [] := by simpa using plain.name.1
  refine framedTrims ?_ ?_ ?_ framed
  · obtain ⟨rest, begins⟩ := begins
    simp [begins]
  · obtain ⟨rest, begins⟩ := begins
    simp [begins]
  · obtain ⟨before, ends⟩ := ends
    rw [ends, List.getLast?_append, List.getLast?_eq_some_getLast filled, Option.some_or]
    intro slash
    exact plain.name.2 (Option.some.inj slash ▸ List.getLast_mem filled)

theorem readFramed : Locator.read text = .ok l ↔ l.Plain ∧ Framed text.toList l.render.toList := by
  rw [readSome, parseSome]
  constructor
  · rintro ⟨plain, same⟩
    exact ⟨plain, same ▸ trimFrames text.toList⟩
  · rintro ⟨plain, framed⟩
    exact ⟨plain, renderTrimmed plain framed⟩

theorem readTrimmed (read : Locator.read text = .ok l) : trimSlashes text.toList = l.render.toList :=
  (parseSome.mp (readSome.mp read)).2

theorem readOtherwise (text : String) : (∃ l, Locator.read text = .ok l) ∨ Locator.read text = .error (.invalidLocator text) := by
  unfold Locator.read
  cases parse? text <;> simp

theorem framedItself (cs : List Char) : Framed cs cs := ⟨0, 0, by simp⟩

theorem readRendered : Locator.read l.render = .ok l ↔ l.Plain := by
  rw [readFramed, and_iff_left (framedItself _)]

theorem readAlike {other : String} {m : Locator} (first : Locator.read text = .ok l)
    (second : Locator.read other = .ok m) : l = m ↔ trimSlashes text.toList = trimSlashes other.toList := by
  constructor
  · rintro rfl
    rw [readTrimmed first, readTrimmed second]
  · intro same
    have parsed : parse? text = parse? other := by rw [parse?, parse?, same]
    rw [readSome.mp first, readSome.mp second] at parsed
    exact Option.some.inj parsed

def keywords : List String := ["projects", "zones", "instances"]

theorem keywordPart {part : String} (keyword : part ∈ keywords) : Part part := by
  simp only [keywords, List.mem_cons, List.not_mem_nil, or_false] at keyword
  rcases keyword with rfl | rfl | rfl <;> exact ⟨by decide, by decide⟩

/- Locators are read just as they are written: any text, any locator. -/
theorem readsWritten :
    (∀ text l, Locator.read text = .ok l ↔ l.Plain ∧ Framed text.toList l.render.toList) ∧
    (∀ text, (∃ l, Locator.read text = .ok l) ∨ Locator.read text = .error (.invalidLocator text)) ∧
    (∀ l : Locator, Locator.read l.render = .ok l ↔ l.Plain) ∧
    (∀ text other l m, Locator.read text = .ok l → Locator.read other = .ok m →
      (l = m ↔ trimSlashes text.toList = trimSlashes other.toList)) ∧
    ∀ l : Locator, l.project ∈ keywords → l.zone ∈ keywords → l.name ∈ keywords → Locator.read l.render = .ok l :=
  ⟨fun _ _ => readFramed, readOtherwise, fun _ => readRendered, fun _ _ _ _ first second => readAlike first second,
    fun _ project zone name => readRendered.mpr ⟨keywordPart project, keywordPart zone, keywordPart name⟩⟩

theorem readsWrittenKeywords :
    let l : Locator := ⟨"zones", "instances", "projects"⟩
    let m : Locator := ⟨"instances", "zones", "projects"⟩
    let text := "//projects/zones/zones/instances/instances/projects/"
    let other := "projects/instances/zones/zones/instances/projects"
    Locator.read l.render = .ok l ∧ Locator.read text = .ok l ∧ Locator.read other = .ok m ∧
      (l = m ↔ trimSlashes text.toList = trimSlashes other.toList) := by
  intro l m text other
  obtain ⟨framed, -, -, alike, keywords⟩ := readsWritten
  have plain : Locator.read l.render = .ok l := keywords l (by decide) (by decide) (by decide)
  have longer : Locator.read text = .ok l := (framed text l).mpr ⟨((framed l.render l).mp plain).1, 2, 1, by decide⟩
  have swapped : Locator.read other = .ok m := keywords m (by decide) (by decide) (by decide)
  exact ⟨plain, longer, swapped, alike text other l m longer swapped⟩

end TunnelRelay.Locator
