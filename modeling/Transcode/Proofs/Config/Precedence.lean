import Transcode.Proofs.Config.Settings
import Transcode.Proofs.Session.Actions
import Transcode.Proofs.Session.Settings
import Transcode.Proofs.Value.Members

/-!
# Where settings come from

A setting that the configuration file gives has the value that it gives last. One that the file does
not give is taken from the environment, and has its standard value if it is not there either. This
is what loading comes to in any session: the settings in force before have no part in it, and
loading again changes nothing.

The file is taken as it is written, so that a name may be given twice, and a null counts as a value.

## Main definitions

* `Document.writtenEntries` — what the file at a path gives, as it is written;
* `Config.source` — the value that a setting is to have.

## Main results

* `entriesAt_eq_ofList` — what is read from a file is what is written there;
* `load_gives_source` — the settings after loading.
-/

namespace Transcode

/-- Two places have the same file at a path: both have none, or what is there reads the same. -/
def Files.SameAt (f g : Files) (path : Value) : Prop :=
  ∀ t, path = .text t → f.has t = g.has t ∧ (f.has t = true → f.read t = g.read t)

namespace Document

/-! ### What a file gives -/

/-- The entries of the object in the file at a path, as they are written one after another. -/
def writtenAt? (files : Files) (path : Text) : Option (List (Text × Value)) := do
  let bytes ← (files.read path).toOption
  let text ← (Text.Utf8.decode bytes).toOption
  Value.members? (Text.unifyLineEnds text)

/-- The entries that a configuration file gives, by `writtenAt?`. An empty path gives none, and
neither does a path where nothing is. -/
def writtenEntries (files : Files) : Value → List (Text × Value)
  | .text path => if !path.isEmpty && files.has path then (writtenAt? files path).getD [] else []
  | _ => []

/-- `check` leaves a value as it is. -/
theorem eq_of_check {value checked : Value} (h : check value = .ok checked) : checked = value := by
  unfold check at h
  split at h
  · cases h
  · split at h
    · cases h
    · exact (Except.ok.inj h).symm

/-- The object that is `read` from a file has the entries that are written there, the last of each
name. -/
theorem writtenAt?_of_read {files : Files} {path : Text} {entries : List (Text × Value)}
    (h : read files path = .ok (.object entries)) :
    ∃ members, writtenAt? files path = some members ∧ entries = Entries.ofList members := by
  unfold read at h
  split at h
  next => cases h
  next bytes hbytes =>
    unfold ofBytes at h
    split at h
    next => cases h
    next text htext =>
      split at h
      next => cases h
      next value hvalue =>
        obtain rfl := eq_of_check h
        obtain ⟨members, hmembers, rfl⟩ := Value.members?_of_read hvalue
        refine ⟨members, ?_, rfl⟩
        simp [writtenAt?, hbytes, htext, hmembers, Except.toOption]

/-- `entriesAt` a path are those of the object in the file there, or none, if it is empty or nothing
is there. -/
theorem entriesAt_eq_ok_cases {files : Files} {path : Value} {entries : List (Text × Value)}
    (h : entriesAt files path = .ok entries) :
    (∃ t, path = .text t ∧ t.isEmpty = false ∧ files.has t = true ∧
      read files t = .ok (.object entries)) ∨
    entries = [] ∧ ∀ t, path = .text t → t.isEmpty = true ∨ files.has t = false := by
  unfold entriesAt at h
  split at h
  next hempty =>
    cases h
    refine .inr ⟨rfl, ?_⟩
    rintro t rfl
    exact .inl hempty
  next hgiven =>
    split at h
    next t =>
      have ht : t.isEmpty = false := by simpa [Value.isEmpty] using hgiven
      split at h
      next hhas =>
        split at h
        next => cases h
        next hread =>
          cases h
          exact .inl ⟨t, rfl, ht, hhas, hread⟩
        next => cases h
      next hhas =>
        cases h
        refine .inr ⟨rfl, ?_⟩
        rintro u ⟨⟩
        exact .inr (Bool.eq_false_iff.mpr hhas)
    next =>
      cases h
      exact .inr ⟨rfl, by rintro t ⟨⟩⟩
    next =>
      split at h
      · cases h
      · split at h
        · cases h
        · cases h
          exact .inr ⟨rfl, by rintro t ⟨⟩⟩
    next => cases h

/-- `entriesAt` a path are what is written there, the last entry of each name. -/
theorem entriesAt_eq_ofList {files : Files} {path : Value} {entries : List (Text × Value)}
    (h : entriesAt files path = .ok entries) :
    entries = Entries.ofList (writtenEntries files path) := by
  obtain ⟨t, rfl, ht, hhas, hread⟩ | ⟨rfl, hnothing⟩ := entriesAt_eq_ok_cases h
  · obtain ⟨members, hmembers, rfl⟩ := writtenAt?_of_read hread
    simp [writtenEntries, ht, hhas, hmembers]
  · cases path with
    | text t => rcases hnothing t rfl with h | h <;> simp [writtenEntries, h, Entries.ofList]
    | _ => rfl

/-- `entriesAt` gives the same where the file is the same. -/
theorem entriesAt_congr {f g : Files} {path : Value} (h : f.SameAt g path) :
    entriesAt f path = entriesAt g path := by
  cases path with
  | text t =>
      obtain ⟨hhas, hread⟩ := h t rfl
      unfold entriesAt
      dsimp only
      rw [← hhas]
      split
      · rfl
      · split
        next hthere =>
          rw [read, read, hread hthere]
        next => rfl
  | _ => rfl

end Document

/-- The value that a setting is to have: the last one that the file gives it, which may be
`Value.null`; without any, what its variable holds, which may be empty; and otherwise
`Setting.standard`. -/
def Config.source (written : List (Text × Value)) (environment : Entries Text Text)
    (setting : Setting) : Value :=
  match Entries.last? (.ofString setting.name) written with
  | some value => value
  | none =>
    match Entries.get? (.ofString setting.environmentName) environment with
    | some text => .text text
    | none => setting.standard

namespace Session

/-- What a setting is once the settings of an environment and of a file have been given to a
configuration, whatever it was before. -/
theorem get_putAll_putAll (c : Config) (environment : Entries Text Text)
    (entries : List (Text × Value)) (setting : Setting) :
    ((c.putAll (Config.ofEnvironment environment).settings).putAll entries).get setting =
      (Entries.last? (.ofString setting.name) entries).getD
        (Config.inEnvironment environment setting) := by
  rw [Config.get_putAll, Config.get_putAll_settings, Config.get_ofEnvironment]

/-- The last entry of a name, or what the environment gives, is the `Config.source` of a setting. -/
theorem getD_inEnvironment_eq_source (written : List (Text × Value))
    (environment : Entries Text Text) (setting : Setting) :
    (Entries.last? (.ofString setting.name) (Entries.ofList written)).getD
        (Config.inEnvironment environment setting) =
      Config.source written environment setting := by
  rw [Entries.last?_ofList, Config.source, Config.inEnvironment]
  cases Entries.last? (.ofString setting.name) written <;> rfl

/-- **`load` gives each setting its `Config.source`**: the file before the environment, and the
environment before the standard value. Nothing is left of what the settings were before, whatever
had been done in the session, and loading once more changes nothing at all. -/
theorem load_gives_source {path : Value} {s after : Session} {config : Config}
    (h : (load path).on s = (.ok config, after)) :
    after.config = config ∧
      (∀ setting, config.get setting =
        Config.source (Document.writtenEntries s.files path) s.environment setting) ∧
      (∀ other : Session, other.environment = s.environment → s.files.SameAt other.files path →
        ∃ same, (load path).on other = (.ok same, { other with config := same }) ∧
          ∀ setting, same.get setting = config.get setting) ∧
      (load path).on after = (.ok config, after) := by
  rw [on_load] at h
  split at h
  next => cases h
  next entries hentries =>
    cases h
    refine ⟨rfl, fun setting => ?_, fun other henv hfile => ?_, ?_⟩
    · rw [get_putAll_putAll, Document.entriesAt_eq_ofList hentries, getD_inEnvironment_eq_source]
    · rw [on_load, henv, ← Document.entriesAt_congr hfile, hentries]
      refine ⟨_, rfl, fun setting => ?_⟩
      rw [get_putAll_putAll, get_putAll_putAll]
    · have hagain := Config.putAll_putAll
        ((Config.ofEnvironment s.environment).settings ++ entries) s.config
      simp only [Config.putAll_append] at hagain
      rw [on_load]
      dsimp only
      rw [hentries]
      dsimp only
      rw [hagain]

/-- A file that gives the preset twice, null at last, and the level; a variable that is empty, and
one that the file overrides; and a setting with another value before. -/
theorem load_gives_source_of_repeated :
    let s : Session :=
      { Session.fresh
          (Files.place ⟨[], [], []⟩ "c.json" (Text.Utf8.encode
            "\x7b\"preset\": \"av1\", \"log_level\": \"DEBUG\", \"preset\": null\x7d".toList)) "" with
        environment := [("FP_FFMPEG_PATH", ""), ("FP_PRESET", "h264")]
        config := ({} : Config).put .logFile (.text "old.log") }
    ∃ config after, (load (.text "c.json")).on s = (.ok config, after) ∧ after.config = config ∧
      (config.get .program).same (.text "") = true ∧ (config.get .preset).same .null = true ∧
      (config.get .logLevel).same (.text "DEBUG") = true ∧
      (config.get .logFile).same .null = true := by
  intro s
  have hok : ((load (.text "c.json")).on s).1.isOk = true := by decide +kernel
  obtain ⟨config, after, h⟩ := Action.exists_of_isOk hok
  obtain ⟨hafter, hsource, -, -⟩ := load_gives_source h
  refine ⟨config, after, h, hafter, ?_, ?_, ?_, ?_⟩ <;> (rw [hsource]; decide +kernel)

end Session

end Transcode
