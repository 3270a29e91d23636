import TunnelRelay.Proofs.Config.Saving

/-! Files of settings through any number of saves and loads, each of which may fail anywhere. What
is loaded is what the last successful save to the same file saved; a save that fails leaves every
file as it was, and one of settings that cannot be written leaves the directories too. -/
namespace TunnelRelay.Histories
open Config FileSystem

abbrev Fault := FileCall → Parts → Option IoError

inductive Request where
  | save (path : String) (settings : Config)
  | load (path : String)

structure Call where
  request : Request
  fault : Fault

def faulty (fs : FileSystem) (fault : Fault) : FileSystem := { fs with fault := fault }

def after (fs : FileSystem) (call : Call) : FileSystem :=
  match call.request with
  | .save path c => (save (faulty fs call.fault) path c).1
  | .load _ => fs

def afterAll (fs : FileSystem) (calls : List Call) : FileSystem := calls.foldl after fs

def saved (fs : FileSystem) (call : Call) : List (String × Config) :=
  match call.request with
  | .save path c =>
      match (save (faulty fs call.fault) path c).2 with
      | .ok () => [(path, c)]
      | .error _ => []
  | .load _ => []

def journal : FileSystem → List Call → List (String × Config)
  | _, [] => []
  | fs, call :: calls => saved fs call ++ journal (after fs call) calls

structure Leads (fs : FileSystem) (path : String) (place : Parts) : Prop where
  plain : (FilePath.ofString path).trailing = false
  file : ∃ content, fs.locate (FilePath.ofString path) = .ok (place, some (.file content))

def SameFile (fs : FileSystem) (path other : String) : Prop := ∃ place, Leads fs path place ∧ Leads fs other place

variable {fs fs' : FileSystem} {path : String} {place : Parts} {c : Config} {fault : Fault}

theorem leadsOne {other : Parts} (one : Leads fs path place) (two : Leads fs path other) : place = other := by
  obtain ⟨_, first⟩ := one.file
  obtain ⟨_, second⟩ := two.file
  cases first.symm.trans second
  rfl

structure Standing (fs fs' : FileSystem) : Prop where
  current : fs'.current = fs.current
  directory : ∀ path, fs.find? path = some .directory → fs'.find? path = some .directory
  file : ∀ path content, fs.find? path = some (.file content) → ∃ content', fs'.find? path = some (.file content')

theorem leadsStanding (standing : Standing fs fs') (leads : Leads fs path place) : Leads fs' path place := by
  obtain ⟨content, at'⟩ := leads.file
  obtain ⟨content', found⟩ := standing.file place content (locateNamed at' nofun).2
  have now := locateKept standing.current standing.directory at' nofun
  exact ⟨leads.plain, content', found ▸ now⟩

theorem grownStanding (grown : Grown fs fs') : Standing fs fs' :=
  ⟨grown.current, fun path => grown.kept path .directory, fun path content found => ⟨content, grown.kept path _ found⟩⟩

theorem faultyGrown (fs : FileSystem) (fault : Fault) : Grown fs (faulty fs fault) := ⟨rfl, fun _ _ => id⟩

theorem aboveGrown (fs : FileSystem) (p : FilePath) : Grown fs (makeAbove fs p).1 := by
  unfold makeAbove
  split
  · exact makeTreeGrown fs _
  · exact grownItself fs

/- What a save that succeeds does: one file has the text of the settings, and nothing else that was there changes. -/
structure Stores (fs fs' : FileSystem) (path : String) (c : Config) (place : Parts) (text : String) : Prop where
  encoded : c.encode = .ok text
  leads : Leads fs' path place
  stored : fs'.find? place = some (.file text.toUTF8)
  standing : Standing fs fs'
  others : ∀ other entry, other ≠ place → fs.find? other = some entry → fs'.find? other = some entry

theorem saveStores (done : (save fs path c).2 = .ok ()) :
    ∃ place text, Stores fs (save fs path c).1 path c place text := by
  cases encoded : c.encode with
  | error e => simp [save, encoded] at done
  | ok text =>
    simp only [save, encoded] at done ⊢
    have written := saveTextOk (Prod.ext rfl done : saveText fs path text = ((saveText fs path text).1, .ok ()))
    generalize (saveText fs path text).1 = fs' at written
    have grown := aboveGrown fs (FilePath.ofString path)
    generalize (makeAbove fs (FilePath.ofString path)).1 = above at written grown
    obtain ⟨plain, place, entry, at', free, rfl⟩ := writeOk written
    obtain ⟨proper, found⟩ := locateNamed at' free
    have others (other : Parts) (entry : FileEntry) (apart : other ≠ place) (there : fs.find? other = some entry) :
        (above.put place (.file text.toUTF8)).find? other = some entry := by
      rw [findPut proper, if_neg apart, grown.kept other entry there]
    have here : (above.put place (.file text.toUTF8)).find? place = some (.file text.toUTF8) := by
      rw [findPut proper, if_pos rfl]
    refine ⟨place, text, encoded, ⟨plain, text.toUTF8, locatePut at' free _⟩, here, ⟨grown.current, ?_, ?_⟩, others⟩
    · intro other there
      exact putKept proper (found ▸ free) _ other (grown.kept other .directory there)
    · intro other content there
      by_cases same : other = place
      · exact ⟨text.toUTF8, same ▸ here⟩
      · exact ⟨content, others other _ same there⟩

theorem saveTextFails {text : String} {e : ConfigError} (failed : (saveText fs path text).2 = .error e) :
    (saveText fs path text).1 = (makeAbove fs (FilePath.ofString path)).1 ∧ ∃ reason, e = .invalid reason := by
  revert failed
  rw [saveTextSteps]
  obtain ⟨above, made⟩ := makeAbove fs (FilePath.ofString path)
  cases made with
  | error _ =>
    rintro ⟨⟩
    exact ⟨rfl, _, rfl⟩
  | ok _ =>
    dsimp only
    cases above.write (FilePath.ofString path) text.toUTF8 with
    | ok _ => nofun
    | error _ =>
      rintro ⟨⟩
      exact ⟨rfl, _, rfl⟩

theorem saveFails {e : ConfigError} (failed : (save fs path c).2 = .error e) :
    Grown fs (save fs path c).1 ∧ (save fs path c).1.fault = fs.fault := by
  cases encoded : c.encode with
  | error e =>
    rw [save, encoded]
    exact ⟨grownItself fs, rfl⟩
  | ok text =>
    simp only [save, encoded] at failed ⊢
    rw [(saveTextFails failed).1]
    exact ⟨aboveGrown fs _, makeAboveFault fs _⟩

theorem saveUnencodable : (∃ e, (save fs path c).2 = .error (.unencodable e)) ↔ ¬ c.Saveable := by
  constructor
  · rintro ⟨e, failed⟩ saveable
    simp only [save, encodeSaveable saveable] at failed
    obtain ⟨-, reason, same⟩ := saveTextFails failed
    cases same
  · intro unsaveable
    exact ⟨.outOfRange, by simp [save, encodeUnsaveable unsaveable]⟩

/- Each save still leads to a file, and the last one to it is what it holds. -/
structure Stored (fs : FileSystem) (log : List (String × Config)) : Prop where
  leads : ∀ s ∈ log, ∃ place, Leads fs s.1 place
  held : ∀ front s back place, log = front ++ s :: back → Leads fs s.1 place →
    (∀ later ∈ back, ¬ Leads fs later.1 place) →
    ∃ text, s.2.encode = .ok text ∧ fs.find? place = some (.file text.toUTF8)

variable {log : List (String × Config)} {text : String}

theorem storedNone (fs : FileSystem) : Stored fs [] :=
  ⟨nofun, fun front _ _ _ split => absurd split.symm (by simp)⟩

theorem ledBefore (stored : Stored fs log) (standing : Standing fs fs') {s : String × Config} (mem : s ∈ log)
    (leads : Leads fs' s.1 place) : Leads fs s.1 place := by
  obtain ⟨before, led⟩ := stored.leads s mem
  cases leadsOne (leadsStanding standing led) leads
  exact led

theorem storedGrown (stored : Stored fs log) (grown : Grown fs fs') : Stored fs' log := by
  have standing := grownStanding grown
  refine ⟨fun s mem => ?_, fun front s back place split leads none => ?_⟩
  · obtain ⟨place, leads⟩ := stored.leads s mem
    exact ⟨place, leadsStanding standing leads⟩
  · have led := ledBefore stored standing (split ▸ by simp) leads
    obtain ⟨text, encoded, found⟩ := stored.held front s back place split led
      fun later mem led => none later mem (leadsStanding standing led)
    exact ⟨text, encoded, grown.kept place _ found⟩

theorem storedSave {target : Parts} (stored : Stored fs log) (stores : Stores fs fs' path c target text) :
    Stored fs' (log ++ [(path, c)]) := by
  refine ⟨fun s mem => ?_, fun front s back place split leads none => ?_⟩
  · rcases List.mem_append.mp mem with before | here
    · obtain ⟨place, leads⟩ := stored.leads s before
      exact ⟨place, leadsStanding stores.standing leads⟩
    · cases List.mem_singleton.mp here
      exact ⟨target, stores.leads⟩
  · rcases List.eq_nil_or_concat back with rfl | ⟨back, last, rfl⟩
    · obtain ⟨-, same⟩ := List.append_inj' split rfl
      cases same
      cases leadsOne stores.leads leads
      exact ⟨text, stores.encoded, stores.stored⟩
    · rw [List.concat_eq_append, ← List.cons_append, ← List.append_assoc] at split
      obtain ⟨before, same⟩ := List.append_inj' split rfl
      cases same
      have led := ledBefore stored stores.standing (before ▸ by simp) leads
      obtain ⟨text, encoded, found⟩ := stored.held front s back place before led
        fun later mem led => none later (by simp [mem]) (leadsStanding stores.standing led)
      have apart : place ≠ target := by
        rintro rfl
        exact none (path, c) (by simp) stores.leads
      exact ⟨text, encoded, stores.others place _ apart found⟩

theorem storedNext (stored : Stored fs log) (call : Call) : Stored (after fs call) (log ++ saved fs call) := by
  obtain ⟨request, fault⟩ := call
  cases request with
  | load path =>
    rw [saved, List.append_nil]
    exact stored
  | save path c =>
    have stored := storedGrown stored (faultyGrown fs fault)
    simp only [after, saved]
    cases outcome : (save (faulty fs fault) path c).2 with
    | error e =>
      rw [List.append_nil]
      exact storedGrown stored (saveFails outcome).1
    | ok _ =>
      obtain ⟨place, text, stores⟩ := saveStores outcome
      exact storedSave stored stores

theorem storedAll (stored : Stored fs log) (calls : List Call) :
    Stored (afterAll fs calls) (log ++ journal fs calls) := by
  induction calls generalizing fs log with
  | nil =>
    rw [journal, List.append_nil]
    exact stored
  | cons call calls ih =>
    rw [journal, ← List.append_assoc]
    exact ih (storedNext stored call)

theorem storedCalls (fs : FileSystem) (calls : List Call) : Stored (afterAll fs calls) (journal fs calls) :=
  storedAll (storedNone fs) calls

theorem loadStored (leads : Leads fs path place) (encoded : c.encode = .ok text)
    (held : fs.find? place = some (.file text.toUTF8)) :
    load fs path ofEntries =
      match fs.fault .read place with
      | none => .ok c.wholeSeconds
      | some e => .error (.invalid ("Failed to read config: " ++ e.message)) := by
  obtain ⟨content, at'⟩ := leads.file
  cases (locateNamed at' nofun).2.symm.trans held
  have there := fileExists at' leads.plain
  have bytes := fileRead at' leads.plain
  cases fault : fs.fault .read place with
  | none =>
    rw [fault] at bytes
    rw [loadsText there bytes, encodedRead encoded]
  | some e =>
    rw [fault] at bytes
    rw [loadSteps there, bytes]

theorem lastOf {α : Type} {P : α → Prop} {xs : List α} (some : ∃ x ∈ xs, P x) :
    ∃ front last back, xs = front ++ last :: back ∧ P last ∧ ∀ later ∈ back, ¬ P later := by
  induction xs with
  | nil => simp at some
  | cons x xs ih =>
    by_cases later : ∃ y ∈ xs, P y
    · obtain ⟨front, last, back, rfl, holds, none⟩ := ih later
      exact ⟨x :: front, last, back, rfl, holds, none⟩
    · obtain ⟨y, mem, holds⟩ := some
      rcases List.mem_cons.mp mem with rfl | mem
      · exact ⟨[], y, xs, rfl, holds, fun z mem holds => later ⟨z, mem, holds⟩⟩
      · exact absurd ⟨y, mem, holds⟩ later

theorem textFound (text : String) : ofText ofEntries text ≠ .error (.notFound path) := by
  unfold ofText
  cases Toml.parse text with
  | none => simp
  | some entries =>
    dsimp only
    cases ofEntries entries with
    | error _ =>
      intro same
      cases same
    | ok _ =>
      intro same
      cases same

theorem loadMissing :
    load fs path ofEntries = .error (.notFound path) ↔ fs.exists? (FilePath.ofString path) = false := by
  cases there : fs.exists? (FilePath.ofString path) with
  | false => simp [load, there, bind, Except.bind, throw, throwThe, MonadExceptOf.throw]
  | true =>
    rw [loadSteps there]
    cases fs.read (FilePath.ofString path) with
    | error e => simp
    | ok content =>
      dsimp only
      cases String.fromUTF8? content with
      | none => simp
      | some text => simp [textFound text]

/- What any calls leave in the files, and what one more load or save then does. -/
theorem savesKept (fs : FileSystem) (calls : List Call) (path : String) :
    (∀ s ∈ journal fs calls, s.1 = path ∨ SameFile (afterAll fs calls) s.1 path →
      ∃ front last back, journal fs calls = front ++ last :: back ∧ SameFile (afterAll fs calls) last.1 path ∧
        (∀ later ∈ back, ¬ SameFile (afterAll fs calls) later.1 path) ∧
        ∃ place, Leads (afterAll fs calls) path place ∧
          ∀ fault, load (faulty (afterAll fs calls) fault) path ofEntries =
            match fault .read place with
            | none => .ok last.2.wholeSeconds
            | some e => .error (.invalid ("Failed to read config: " ++ e.message))) ∧
    ∀ fault,
      (load (faulty (afterAll fs calls) fault) path ofEntries = .error (.notFound path) ↔
        (faulty (afterAll fs calls) fault).exists? (FilePath.ofString path) = false) ∧
      ∀ c,
        ((∃ e, (save (faulty (afterAll fs calls) fault) path c).2 = .error e) →
          (∀ place content, (afterAll fs calls).find? place = some (.file content) →
            (save (faulty (afterAll fs calls) fault) path c).1.find? place = some (.file content)) ∧
          ∀ other content, (faulty (afterAll fs calls) fault).read (FilePath.ofString other) = .ok content →
            (save (faulty (afterAll fs calls) fault) path c).1.read (FilePath.ofString other) = .ok content) ∧
        ((∃ e, (save (faulty (afterAll fs calls) fault) path c).2 = .error (.unencodable e)) ↔ ¬ c.Saveable) ∧
        (¬ c.Saveable →
          save (faulty (afterAll fs calls) fault) path c =
            (faulty (afterAll fs calls) fault, .error (.unencodable .outOfRange))) := by
  have stored := storedCalls fs calls
  generalize afterAll fs calls = now at stored
  refine ⟨fun s mem aimed => ?_, fun fault => ⟨loadMissing, fun c => ⟨?_, saveUnencodable, fun unsaveable => ?_⟩⟩⟩
  · have same : SameFile now s.1 path := by
      rcases aimed with rfl | same
      · obtain ⟨place, leads⟩ := stored.leads s mem
        exact ⟨place, leads, leads⟩
      · exact same
    obtain ⟨front, last, back, split, lastSame, none⟩ := lastOf (P := fun s => SameFile now s.1 path) ⟨s, mem, same⟩
    obtain ⟨place, leads, here⟩ := lastSame
    refine ⟨front, last, back, split, ⟨place, leads, here⟩, none, place, here, fun fault => ?_⟩
    obtain ⟨text, encoded, held⟩ := stored.held front last back place split leads
      fun later mem led => none later mem ⟨place, led, here⟩
    have grown := faultyGrown now fault
    exact loadStored (leadsStanding (grownStanding grown) here) encoded held
  · rintro ⟨e, failed⟩
    obtain ⟨grown, same⟩ := saveFails failed
    exact ⟨fun place content found => grown.kept place _ found, fun other content done => readGrown grown same done⟩
  · simp [save, encodeUnsaveable unsaveable]

def calm : Fault := fun _ _ => none

def noWriting : Fault := fun call _ => if call = .write then some (.os 28) else none

def attempts : List Call :=
  [⟨.save "/home/me/config.toml" default, calm⟩,
    ⟨.save "/home/me/config.toml" { default with loopbackOnly := false }, noWriting⟩,
    ⟨.save "/home/me/config.toml" { default with relayBufferSize := .ofNat (Nat.pow 2 63) }, calm⟩,
    ⟨.save "/home/me/config.toml/more/config.toml" default, calm⟩,
    ⟨.load "/home/me/config.toml", calm⟩]

theorem attemptsSaved : journal {} attempts = [("/home/me/config.toml", default)] := rfl

theorem savesKeptAttempts :
    load (faulty (afterAll {} attempts) calm) "/home/./me/config.toml" ofEntries = .ok default := by
  have same : SameFile (afterAll {} attempts) "/home/me/config.toml" "/home/./me/config.toml" :=
    ⟨["home", "me", "config.toml"], ⟨rfl, _, rfl⟩, ⟨rfl, _, rfl⟩⟩
  obtain ⟨kept, -⟩ := savesKept {} attempts "/home/./me/config.toml"
  obtain ⟨front, last, back, split, -, -, place, -, loads⟩ := kept ("/home/me/config.toml", default)
    (attemptsSaved ▸ List.mem_singleton_self _) (.inr same)
  have only : last ∈ [("/home/me/config.toml", default)] := attemptsSaved ▸ split ▸ by simp
  cases List.mem_singleton.mp only
  exact loads calm

end TunnelRelay.Histories
