import TunnelRelay.FileSystem

/-! A file that was written is there and is read back. Nothing that is called takes a directory
away, so that the walk to a file leads the same way before and after; and making directories, also
where it fails on the way, leaves all there is as it was. -/
namespace TunnelRelay.FileSystem

theorem lookupOther {entries : List (Parts × FileEntry)} {path other : Parts} (apart : other ≠ path) :
    (entries.filter fun e => e.1 != path).lookup other = entries.lookup other := by
  induction entries with
  | nil => rfl
  | cons head entries ih =>
    obtain ⟨q, entry⟩ := head
    by_cases same : q = path
    · subst same
      simp [List.lookup_cons, ih, beq_false_of_ne apart]
    · simp [List.lookup_cons, ih, same]

theorem findPut {path : Parts} (proper : path ≠ []) (fs : FileSystem) (entry : FileEntry) (other : Parts) :
    (fs.put path entry).find? other = if other = path then some entry else fs.find? other := by
  unfold find?
  by_cases same : other = path
  · subst same
    simp [put, proper]
  · simp only [if_neg same, put, List.lookup_cons, beq_false_of_ne same, lookupOther same]

theorem walkKept {fs fs' : FileSystem}
    (kept : ∀ path, fs.find? path = some .directory → fs'.find? path = some .directory) {dir target parts : Parts}
    (leads : fs.walk dir parts = .ok target) : fs'.walk dir parts = .ok target := by
  induction parts generalizing dir with
  | nil => exact leads
  | cons part parts ih =>
    unfold walk at leads ⊢
    by_cases here : part = "."
    · simp only [if_pos here] at leads ⊢
      exact ih leads
    simp only [if_neg here] at leads ⊢
    by_cases up : part = ".."
    · simp only [if_pos up] at leads ⊢
      exact ih leads
    simp only [if_neg up] at leads ⊢
    by_cases long : nameLimit < part.utf8ByteSize
    · simp [long] at leads
    simp only [if_neg long] at leads ⊢
    cases found : fs.find? (dir ++ [part]) with
    | none => simp [found] at leads
    | some entry =>
      cases entry with
      | file _ => simp [found] at leads
      | directory =>
        rw [kept _ found]
        simp only [found] at leads ⊢
        exact ih leads

structure Admitted (p : FilePath) : Prop where
  plain : p.text.toList.contains '\x00' = false
  filled : p.isEmpty = false
  short : ¬ pathLimit ≤ p.text.utf8ByteSize

def lastStep (fs : FileSystem) (dir : Parts) : Option String → Except IoError (Parts × Option FileEntry)
  | none => .ok (dir, some .directory)
  | some "." => .ok (dir, some .directory)
  | some ".." => .ok (dir.dropLast, some .directory)
  | some part =>
      if nameLimit < part.utf8ByteSize then .error (.os 36)
      else .ok (dir ++ [part], fs.find? (dir ++ [part]))

def start (fs : FileSystem) (p : FilePath) : Parts := if p.absolute then [] else fs.current

theorem locateWalk {p : FilePath} (admitted : Admitted p) (fs : FileSystem) :
    fs.locate p = (fs.walk (fs.start p) p.parts.dropLast).bind fun dir => fs.lastStep dir p.parts.getLast? := by
  simp only [locate, admitted.plain, admitted.filled, admitted.short, Bool.false_eq_true, if_false, bind, Except.bind,
    pure, Except.pure, throw, throwThe, MonadExceptOf.throw, start]
  cases fs.walk (if p.absolute = true then [] else fs.current) p.parts.dropLast with
  | error _ => rfl
  | ok dir =>
    generalize p.parts.getLast? = part
    dsimp only
    unfold lastStep
    split
    · rfl
    · rfl
    · rfl
    · simp only

theorem locateAdmitted {fs : FileSystem} {p : FilePath} {found : Parts × Option FileEntry}
    (at' : fs.locate p = .ok found) : Admitted p := by
  simp only [locate, bind, Except.bind, throw, throwThe, MonadExceptOf.throw] at at'
  split at at' <;> rename_i nul
  · cases at'
  split at at' <;> rename_i empty
  · cases at'
  split at at' <;> rename_i long
  · cases at'
  exact ⟨by simpa using nul, by simpa using empty, by simpa using long⟩

theorem lastNamed {fs : FileSystem} {dir path : Parts} {part : Option String} {entry : Option FileEntry}
    (at' : fs.lastStep dir part = .ok (path, entry)) (free : entry ≠ some .directory) :
    ∃ name, path = dir ++ [name] ∧ entry = fs.find? path ∧
      ∀ fs' : FileSystem, fs'.lastStep dir part = .ok (path, fs'.find? path) := by
  unfold lastStep at at' ⊢
  split at at'
  · cases at'; exact absurd rfl free
  · cases at'; exact absurd rfl free
  · cases at'; exact absurd rfl free
  · rename_i name _ _
    split at at'
    · cases at'
    · cases at'
      rename_i fits
      exact ⟨name, rfl, rfl, fun fs' => by simp [fits]⟩

variable {fs fs' : FileSystem} {p : FilePath} {path : Parts} {entry : Option FileEntry}

theorem locateNamed (at' : fs.locate p = .ok (path, entry)) (free : entry ≠ some .directory) :
    path ≠ [] ∧ fs.find? path = entry := by
  rw [locateWalk (locateAdmitted at')] at at'
  cases walked : fs.walk (fs.start p) p.parts.dropLast with
  | error _ => simp [walked, Except.bind] at at'
  | ok dir =>
    simp only [walked, Except.bind] at at'
    obtain ⟨name, rfl, rfl, -⟩ := lastNamed at' free
    exact ⟨by simp, rfl⟩

theorem locateKept (current : fs'.current = fs.current)
    (kept : ∀ path, fs.find? path = some .directory → fs'.find? path = some .directory)
    (at' : fs.locate p = .ok (path, entry)) (free : entry ≠ some .directory) :
    fs'.locate p = .ok (path, fs'.find? path) := by
  have admitted := locateAdmitted at'
  rw [locateWalk admitted] at at' ⊢
  cases walked : fs.walk (fs.start p) p.parts.dropLast with
  | error _ => simp [walked, Except.bind] at at'
  | ok dir =>
    simp only [walked, Except.bind] at at'
    obtain ⟨name, rfl, rfl, named⟩ := lastNamed at' free
    have same : fs'.start p = fs.start p := by rw [start, start, current]
    rw [same, walkKept kept walked, Except.bind, named]

theorem putKept (proper : path ≠ []) (free : fs.find? path ≠ some .directory) (entry : FileEntry) :
    ∀ other, fs.find? other = some .directory → (fs.put path entry).find? other = some .directory := by
  intro other found
  have apart : other ≠ path := fun same => free (same ▸ found)
  rw [findPut proper, if_neg apart, found]

theorem locatePut (at' : fs.locate p = .ok (path, entry)) (free : entry ≠ some .directory) (content : ByteArray) :
    (fs.put path (.file content)).locate p = .ok (path, some (.file content)) := by
  obtain ⟨proper, found⟩ := locateNamed at' free
  have current : (fs.put path (.file content)).current = fs.current := rfl
  rw [locateKept current (putKept proper (found ▸ free) _) at' free, findPut proper, if_pos rfl]

theorem locateDot {fs : FileSystem} {p : FilePath} {found : Parts × Option FileEntry}
    (dot : p.parts.getLast? = some ".") (at' : fs.locate p = .ok found) : found.2 = some .directory := by
  rw [locateWalk (locateAdmitted at')] at at'
  cases walked : fs.walk (fs.start p) p.parts.dropLast with
  | error _ => simp [walked, Except.bind] at at'
  | ok dir =>
    simp only [walked, Except.bind, dot, lastStep] at at'
    cases at'
    rfl

theorem writeOk {fs fs' : FileSystem} {p : FilePath} {content : ByteArray} (done : fs.write p content = .ok fs') :
    p.trailing = false ∧ ∃ path entry, fs.locate p = .ok (path, entry) ∧ entry ≠ some .directory ∧
      fs' = fs.put path (.file content) := by
  simp only [write, bind, Except.bind, check, pure, Except.pure, throw, throwThe, MonadExceptOf.throw] at done
  split at done
  · cases done
  rename_i found at'
  split at done
  · cases done
  rename_i free
  split at done
  · cases done
  cases done
  by_cases slash : p.trailing = true
  · rw [if_pos slash] at at'
    exact absurd (locateDot (by simp) at') free
  · rw [if_neg slash] at at'
    exact ⟨by simpa using slash, found.1, found.2, at', free, rfl⟩

theorem fileExists {content : ByteArray} (at' : fs.locate p = .ok (path, some (.file content)))
    (plain : p.trailing = false) : fs.exists? p = true := by
  simp [exists?, status, at', plain]

theorem fileRead {content : ByteArray} (at' : fs.locate p = .ok (path, some (.file content)))
    (plain : p.trailing = false) :
    fs.read p =
      match fs.fault .read path with
      | none => .ok content
      | some error => .error error := by
  simp only [read, at', check, bind, Except.bind]
  cases fs.fault .read path with
  | none => simp [plain, pure, Except.pure]
  | some _ => rfl

theorem readOk {content : ByteArray} (done : fs.read p = .ok content) :
    p.trailing = false ∧ ∃ path, fs.locate p = .ok (path, some (.file content)) ∧ fs.fault .read path = none := by
  simp only [read, bind, Except.bind, check, pure, Except.pure, throw, throwThe, MonadExceptOf.throw] at done
  split at done
  · cases done
  rename_i found at'
  obtain ⟨path, entry⟩ := found
  cases allowed : fs.fault .read path with
  | some _ => simp [allowed] at done
  | none =>
    simp only [allowed] at done
    split at done
    · cases done
    · cases done
    · split at done
      · cases done
      · rename_i plain
        cases done
        exact ⟨by simpa using plain, path, at', allowed⟩

theorem writtenExists {fs fs' : FileSystem} {p : FilePath} {content : ByteArray}
    (done : fs.write p content = .ok fs') : fs'.exists? p = true := by
  obtain ⟨plain, path, entry, at', free, rfl⟩ := writeOk done
  exact fileExists (locatePut at' free content) plain

theorem writtenRead {fs fs' : FileSystem} {p : FilePath} {content : ByteArray}
    (done : fs.write p content = .ok fs') (sound : ∀ path, fs.fault .read path = none) :
    fs'.read p = .ok content := by
  obtain ⟨plain, path, entry, at', free, rfl⟩ := writeOk done
  have allowed : (fs.put path (.file content)).fault .read path = none := sound path
  rw [fileRead (locatePut at' free content) plain, allowed]

theorem makeDirectoryOk (done : fs.makeDirectory p = .ok fs') :
    ∃ path, fs.locate p = .ok (path, none) ∧ fs' = fs.put path .directory := by
  simp only [makeDirectory, bind, Except.bind, check, pure, Except.pure, throw, throwThe,
    MonadExceptOf.throw] at done
  split at done
  · cases done
  rename_i found at'
  split at done
  · cases done
  rename_i fresh
  split at done
  · cases done
  cases done
  obtain ⟨path, entry⟩ := found
  cases entry with
  | none => exact ⟨path, at', rfl⟩
  | some _ => simp at fresh

theorem makeDirectoriesKeep {P : FileSystem → Prop}
    (step : ∀ fs fs' p, P fs → fs.makeDirectory p = .ok fs' → P fs') (n : Nat) (fs : FileSystem) (p : FilePath)
    (holds : P fs) : P (makeDirectories n fs p).1 := by
  induction n generalizing fs p with
  | zero =>
    unfold makeDirectories
    split
    · exact holds
    split
    · rename_i made
      exact step _ _ _ holds made
    split
    · split <;> first | exact holds | contradiction
    · split <;> exact holds
  | succ n ih =>
    unfold makeDirectories
    split
    · exact holds
    split
    · rename_i made
      exact step _ _ _ holds made
    split
    · split
      · rename_i m above same _
        cases same
        have tree := ih fs above holds
        split <;> rename_i made <;> rw [made] at tree
        · exact tree
        · split
          · rename_i made
            exact step _ _ _ tree made
          · split <;> exact tree
      · exact holds
    · split <;> exact holds

theorem makeTreeKeeps {P : FileSystem → Prop} (step : ∀ fs fs' p, P fs → fs.makeDirectory p = .ok fs' → P fs')
    (fs : FileSystem) (p : FilePath) (holds : P fs) : P (fs.makeTree p).1 :=
  makeDirectoriesKeep step _ fs p holds

theorem makeTreeFault (fs : FileSystem) (p : FilePath) : (fs.makeTree p).1.fault = fs.fault := by
  refine makeTreeKeeps (P := fun made => made.fault = fs.fault) ?_ fs p rfl
  intro before after p same done
  obtain ⟨path, -, rfl⟩ := makeDirectoryOk done
  exact same

structure Grown (fs fs' : FileSystem) : Prop where
  current : fs'.current = fs.current
  kept : ∀ path entry, fs.find? path = some entry → fs'.find? path = some entry

theorem grownItself (fs : FileSystem) : Grown fs fs := ⟨rfl, fun _ _ => id⟩

theorem Grown.trans {fs'' : FileSystem} (first : Grown fs fs') (second : Grown fs' fs'') : Grown fs fs'' :=
  ⟨second.current.trans first.current, fun path entry found => second.kept path entry (first.kept path entry found)⟩

theorem makeDirectoryGrown (done : fs.makeDirectory p = .ok fs') : Grown fs fs' := by
  obtain ⟨path, at', rfl⟩ := makeDirectoryOk done
  obtain ⟨proper, fresh⟩ := locateNamed at' nofun
  refine ⟨rfl, fun other entry found => ?_⟩
  have apart : other ≠ path := fun same => nomatch (same ▸ fresh).symm.trans found
  rw [findPut proper, if_neg apart, found]

theorem makeTreeGrown (fs : FileSystem) (p : FilePath) : Grown fs (fs.makeTree p).1 :=
  makeTreeKeeps (fun _ _ _ grown done => grown.trans (makeDirectoryGrown done)) fs p (grownItself fs)

theorem readGrown {content : ByteArray} (grown : Grown fs fs') (fault : fs'.fault = fs.fault)
    (done : fs.read p = .ok content) : fs'.read p = .ok content := by
  obtain ⟨plain, path, at', allowed⟩ := readOk done
  have now := locateKept grown.current (fun path => grown.kept path .directory) at' nofun
  rw [grown.kept path _ (locateNamed at' nofun).2] at now
  rw [fileRead now plain, fault, allowed]

end TunnelRelay.FileSystem
