import TunnelRelay.Proofs.Config.RoundTrip
import TunnelRelay.Proofs.FileSystem

/-! Settings saved to a file and loaded from it. Which settings can be saved depends on two
numbers only, and whether the file can be written does not depend on the settings. -/
namespace TunnelRelay.Config
open Toml Text

def Saveable (c : Config) : Prop :=
  c.connectTimeout.secs.toNat ≤ Nat.pow 2 63 - 1 ∧ c.relayBufferSize.toNat ≤ Nat.pow 2 63 - 1

def wholeSeconds (c : Config) : Config := { c with connectTimeout := .ofSecs c.connectTimeout.secs }

def Writable (fs : FileSystem) (path : String) : Prop := (saveText fs path "").2 = .ok ()

theorem fitsNatural (n : Nat) : fitsInteger n = true ↔ n ≤ Nat.pow 2 63 - 1 := by
  have low : Int64.minValue.toInt ≤ (n : Int) := Int.le_trans (by decide) (Int.natCast_nonneg n)
  have high : Int64.maxValue.toInt = ((Nat.pow 2 63 - 1 : Nat) : Int) := by decide
  simp only [fitsInteger, low, decide_true, Bool.true_and, decide_eq_true_eq, high]
  exact Int.ofNat_le

theorem encodeSaveable {c : Config} (saveable : c.Saveable) : c.encode = .ok (String.ofList c.render) := by
  simp [encode, (fitsNatural _).mpr saveable.1, (fitsNatural _).mpr saveable.2]

theorem encodeUnsaveable {c : Config} (unsaveable : ¬ c.Saveable) : c.encode = .error .outOfRange := by
  have large : (fitsInteger c.connectTimeout.secs.toNat && fitsInteger c.relayBufferSize.toNat) = false := by
    rw [Bool.eq_false_iff]
    intro both
    obtain ⟨timeout, buffer⟩ := Bool.and_eq_true_iff.mp both
    exact unsaveable ⟨(fitsNatural _).mp timeout, (fitsNatural _).mp buffer⟩
  rw [encode, large]
  rfl

theorem encodeOk {c : Config} {text : String} (encoded : c.encode = .ok text) :
    c.Saveable ∧ text = String.ofList c.render := by
  by_cases saveable : c.Saveable
  · rw [encodeSaveable saveable] at encoded
    exact ⟨saveable, (Except.ok.inj encoded).symm⟩
  · rw [encodeUnsaveable saveable] at encoded
    cases encoded

theorem encodeWholeSeconds (c : Config) : c.wholeSeconds.encode = c.encode := rfl

theorem renderUnmarked (c : Config) : c.render.head? ≠ some '\uFEFF' := by
  have first : c.render.head? = some 'c' := rfl
  rw [first]
  decide

theorem encodedRead {c : Config} {text : String} (encoded : c.encode = .ok text) :
    ofText ofEntries text = .ok c.wholeSeconds := by
  obtain ⟨saveable, rfl⟩ := encodeOk encoded
  have reads := configRead ((fitsNatural _).mpr saveable.1) ((fitsNatural _).mpr saveable.2)
  rw [← @String.toList_ofList c.render] at reads
  have parsed := parseLines reads (by rw [String.toList_ofList]; exact renderUnmarked c)
  rw [buildConfig] at parsed
  simp only [ofText, parsed, configDecoded]
  rfl

def makeAbove (fs : FileSystem) (p : FilePath) : FileSystem × Except IoError Unit :=
  match p.parent with
  | some above => fs.makeTree above
  | none => (fs, .ok ())

theorem makeAboveFault (fs : FileSystem) (p : FilePath) : (makeAbove fs p).1.fault = fs.fault := by
  unfold makeAbove
  split
  · exact FileSystem.makeTreeFault fs _
  · rfl

theorem saveTextSteps (fs : FileSystem) (path text : String) :
    saveText fs path text =
      match makeAbove fs (FilePath.ofString path) with
      | (above, .error e) => (above, .error (.invalid ("Failed to create config dir: " ++ e.message)))
      | (above, .ok ()) =>
          match above.write (FilePath.ofString path) text.toUTF8 with
          | .ok written => (written, .ok ())
          | .error e => (above, .error (.invalid ("Failed to write config: " ++ e.message))) := by
  unfold saveText makeAbove
  dsimp only
  cases (FilePath.ofString path).parent with
  | none => rfl
  | some dir =>
    dsimp only
    generalize fs.makeTree dir = tree
    obtain ⟨above, made⟩ := tree
    cases made <;> rfl

theorem saveTextOk {fs fs' : FileSystem} {path text : String} (done : saveText fs path text = (fs', .ok ())) :
    (makeAbove fs (FilePath.ofString path)).1.write (FilePath.ofString path) text.toUTF8 = .ok fs' := by
  rw [saveTextSteps] at done
  split at done
  · cases done
  · rename_i above made
    split at done
    · rename_i written write
      cases done
      rw [made]
      exact write
    · cases done

theorem writeOutcome (fs : FileSystem) (p : FilePath) (a b : ByteArray) :
    (fs.write p a).map (fun _ => ()) = (fs.write p b).map (fun _ => ()) := by
  simp only [FileSystem.write, bind, Except.bind]
  split
  · rfl
  split
  · rfl
  split
  · rfl
  · rfl

theorem saveTextOutcome (fs : FileSystem) (path a b : String) : (saveText fs path a).2 = (saveText fs path b).2 := by
  rw [saveTextSteps, saveTextSteps]
  obtain ⟨above, made⟩ := makeAbove fs (FilePath.ofString path)
  cases made with
  | error _ => rfl
  | ok _ =>
    have same := writeOutcome above (FilePath.ofString path) a.toUTF8 b.toUTF8
    revert same
    dsimp only
    cases above.write (FilePath.ofString path) a.toUTF8 <;> cases above.write (FilePath.ofString path) b.toUTF8 <;>
      simp +contextual [Except.map]

theorem textOfBytes (text : String) : String.fromUTF8? text.toUTF8 = some text := by
  unfold String.fromUTF8?
  rw [dif_pos (String.toUTF8_eq_toByteArray ▸ text.isValidUTF8)]
  rfl

theorem loadSteps {fs : FileSystem} {path : String} (present : fs.exists? (FilePath.ofString path) = true)
    (decode : Entries → Except DataError α) :
    load fs path decode =
      match fs.read (FilePath.ofString path) with
      | .error e => .error (.invalid ("Failed to read config: " ++ e.message))
      | .ok content =>
          match String.fromUTF8? content with
          | none => .error (.invalid "Failed to read config: stream did not contain valid UTF-8")
          | some text => ofText decode text := by
  simp only [load, present, bind, Except.bind, Bool.not_true, Bool.false_eq_true, if_false]
  cases fs.read (FilePath.ofString path) with
  | error _ => rfl
  | ok content => rfl

theorem loadsText {fs : FileSystem} {path text : String} (present : fs.exists? (FilePath.ofString path) = true)
    (bytes : fs.read (FilePath.ofString path) = .ok text.toUTF8) (decode : Entries → Except DataError α) :
    load fs path decode = ofText decode text := by
  rw [loadSteps present, bytes]
  simp only [textOfBytes]

theorem savedLoads {fs fs' : FileSystem} {path text : String} (done : saveText fs path text = (fs', .ok ()))
    (sound : ∀ parts, fs.fault .read parts = none) :
    fs'.read (FilePath.ofString path) = .ok text.toUTF8 ∧ load fs' path ofEntries = ofText ofEntries text := by
  have written := saveTextOk done
  have calm : ∀ parts, (makeAbove fs (FilePath.ofString path)).1.fault .read parts = none := by
    rw [makeAboveFault]
    exact sound
  have bytes := FileSystem.writtenRead written calm
  exact ⟨bytes, loadsText (FileSystem.writtenExists written) bytes ofEntries⟩

theorem saveOutcome (fs : FileSystem) (path : String) (c : Config) :
    (save fs path c).2 = .ok () ↔ c.Saveable ∧ Writable fs path := by
  by_cases saveable : c.Saveable
  · simp only [save, encodeSaveable saveable, saveable, true_and, Writable]
    rw [saveTextOutcome fs path _ ""]
  · simp [save, encodeUnsaveable saveable, saveable]

theorem saveLoads {fs fs' : FileSystem} {path : String} {c : Config} (done : save fs path c = (fs', .ok ()))
    (sound : ∀ parts, fs.fault .read parts = none) : load fs' path ofEntries = .ok c.wholeSeconds := by
  have outcome : (save fs path c).2 = .ok () := by rw [done]
  have encoded := encodeSaveable ((saveOutcome fs path c).mp outcome).1
  simp only [save, encoded] at done
  exact (savedLoads done sound).2.trans (encodedRead encoded)

/- Settings can be saved exactly if their timeout and their buffer fit a TOML integer, and to a file
exactly if that can be written besides. Their text denotes the settings in whole seconds, which are
saved as the same text; and so does the file after a save. -/
theorem saveLoadRoundTrip (c : Config) :
    ((∃ text, c.encode = .ok text) ↔ c.Saveable) ∧
      (∀ text, c.encode = .ok text → ofText ofEntries text = .ok c.wholeSeconds ∧ c.wholeSeconds.encode = .ok text) ∧
      ∀ fs path, ((save fs path c).2 = .ok () ↔ c.Saveable ∧ Writable fs path) ∧
        (¬ c.Saveable → save fs path c = (fs, .error (.unencodable .outOfRange))) ∧
        save fs path c.wholeSeconds = save fs path c ∧
        ∀ fs', save fs path c = (fs', .ok ()) → (∀ parts, fs.fault .read parts = none) →
          ∃ text, c.encode = .ok text ∧ fs'.read (FilePath.ofString path) = .ok text.toUTF8 ∧
            load fs' path ofEntries = .ok c.wholeSeconds := by
  refine ⟨⟨?_, fun saveable => ⟨_, encodeSaveable saveable⟩⟩, fun text encoded => ⟨encodedRead encoded, ?_⟩,
    fun fs path => ⟨saveOutcome fs path c, ?_, ?_, fun fs' done sound => ?_⟩⟩
  · rintro ⟨text, encoded⟩
    exact (encodeOk encoded).1
  · rw [encodeWholeSeconds, encoded]
  · intro unsaveable
    simp [save, encodeUnsaveable unsaveable]
  · simp only [save, encodeWholeSeconds]
  · have outcome : (save fs path c).2 = .ok () := by rw [done]
    have encoded := encodeSaveable ((saveOutcome fs path c).mp outcome).1
    simp only [save, encoded] at done
    obtain ⟨bytes, loads⟩ := savedLoads done sound
    exact ⟨_, encoded, bytes, loads.trans (encodedRead encoded)⟩

theorem saveLoadRoundTripDefault :
    ∃ fs', save {} "/config.toml" default = (fs', .ok ()) ∧ load fs' "/config.toml" ofEntries = .ok default := by
  have saveable : default.Saveable := by unfold Saveable; decide
  have writable : Writable {} "/config.toml" := rfl
  have whole : default.wholeSeconds = default := rfl
  obtain ⟨_, _, files⟩ := saveLoadRoundTrip default
  obtain ⟨outcome, _, _, loads⟩ := files {} "/config.toml"
  have done := outcome.mpr ⟨saveable, writable⟩
  have saved : save {} "/config.toml" default = ((save {} "/config.toml" default).1, .ok ()) := Prod.ext rfl done
  obtain ⟨_, _, _, loaded⟩ := loads _ saved fun _ => rfl
  exact ⟨_, saved, whole ▸ loaded⟩

end TunnelRelay.Config
