import Transcode.Proofs.Config.Refusals

/-!
# A configuration file alone and in a session

A configuration file can be read in two ways. Alone, its entries make a new configuration, in which
a setting that the file does not give has its standard value. In a session, loading it gives the
configuration in force first what the environment gives, and then the entries one by one.

Where the environment gives nothing, the two agree, whatever is in the file and whatever the
settings were before: both fault, or both have the same settings. Both read the file in the same
way, and only afterwards do they go apart. A document that is no object but passes the check of
names is refused by either, though for different reasons; and the names of an object that has passed
are those of settings, so that a new configuration can be made of it.

## Main definitions

* `Environment.IsSilent` — no variable of the environment gives a setting.

## Main results

* `check_of_read` — what is read has passed the check of names;
* `ofFile_of_read_object`, `entriesAt_of_read_object` — an object, read in either way;
* `ofFile_agrees_with_load` — the two ways agree.
-/

namespace Transcode

/-- None of the variables that give settings is in the environment. -/
def Environment.IsSilent (environment : Entries Text Text) : Prop :=
  ∀ setting : Setting, Entries.get? (.ofString setting.environmentName) environment = none

/-- `Config.inEnvironment` is the standard value where the environment `IsSilent`. -/
theorem Environment.IsSilent.inEnvironment {environment : Entries Text Text}
    (h : IsSilent environment) (setting : Setting) :
    Config.inEnvironment environment setting = setting.standard := by
  rw [Config.inEnvironment, h setting]

/-- A new configuration has the standard values. -/
theorem Config.get_new (setting : Setting) : ({} : Config).get setting = setting.standard := by
  cases setting <;> rfl

namespace Document

variable {files : Files} {path : Text} {entries : List (Text × Value)}

/-- What `read` gives has passed the `check` of names. -/
theorem check_of_read {value : Value} (h : read files path = .ok value) :
    check value = .ok value := by
  unfold read at h
  split at h
  next => cases h
  next bytes _ =>
    rw [ofBytes_eq] at h
    split at h
    next => cases h
    next spelt _ =>
      obtain rfl := eq_of_check h
      exact h

/-- `Config.ofFile` of an object that is read makes a configuration of its own. -/
theorem ofFile_of_read_object (h : read files path = .ok (.object entries)) :
    Config.ofFile files path = .ok (({} : Config).putAll entries) := by
  rw [Config.ofFile, h]
  exact Config.ofEntries_of_known (known_of_check (check_of_read h))

/-- `entriesAt` of an object that is read are its entries. -/
theorem entriesAt_of_read_object (hgiven : path ≠ []) (hthere : files.has path = true)
    (h : read files path = .ok (.object entries)) :
    entriesAt files (.text path) = .ok entries := by
  rw [entriesAt_of_has hgiven hthere, h]

/-- `read` of a value that is no object makes no configuration, and adds to none. -/
theorem exists_faults_of_read {value : Value} (hgiven : path ≠ [])
    (hthere : files.has path = true) (h : read files path = .ok value)
    (hvalue : ∀ entries, value ≠ .object entries) :
    (∃ fault, Config.ofFile files path = .error fault) ∧
      ∃ fault, entriesAt files (.text path) = .error fault := by
  rw [entriesAt_of_has hgiven hthere, Config.ofFile, h]
  cases value with
  | object entries => exact absurd rfl (hvalue entries)
  | _ => exact ⟨⟨_, rfl⟩, _, rfl⟩

end Document

namespace Session

/-- **The two ways of reading a configuration file agree**, where the environment `IsSilent`. For
whatever is at a path, and in every session, `Config.ofFile` faults exactly if `Session.load` does;
and if neither does, the new configuration and the one in force have the same settings. -/
theorem ofFile_agrees_with_load {path : Text} {s : Session}
    (hsilent : Environment.IsSilent s.environment) (hgiven : path ≠ [])
    (hthere : s.files.has path = true) :
    ((∃ fault, Config.ofFile s.files path = .error fault) ↔
        ∃ fault, ((load (.text path)).on s).1 = .error fault) ∧
      ∀ own loaded, Config.ofFile s.files path = .ok own →
        ((load (.text path)).on s).1 = .ok loaded →
          ((load (.text path)).on s).2.config = loaded ∧
            ∀ setting, own.get setting = loaded.get setting := by
  simp only [load_eq_error_iff]
  cases hread : Document.read s.files path with
  | error fault =>
      -- neither way gets beyond the file
      have hown : Config.ofFile s.files path = .error fault := by rw [Config.ofFile, hread]
      have hentries : Document.entriesAt s.files (.text path) = .error fault := by
        rw [Document.entriesAt_of_has hgiven hthere, hread]
      refine ⟨⟨fun _ => ⟨_, hentries⟩, fun _ => ⟨_, hown⟩⟩, fun own _ hok => ?_⟩
      rw [hown] at hok
      cases hok
  | ok value =>
      by_cases hobject : ∃ entries, value = .object entries
      · obtain ⟨entries, rfl⟩ := hobject
        have hown := Document.ofFile_of_read_object hread
        have hentries := Document.entriesAt_of_read_object hgiven hthere hread
        rw [hown, on_load, hentries]
        refine ⟨by simp, ?_⟩
        rintro own loaded ⟨⟩ ⟨⟩
        refine ⟨rfl, fun setting => ?_⟩
        rw [get_putAll_putAll, Config.get_putAll, Config.get_new, hsilent.inEnvironment]
      · rw [not_exists] at hobject
        obtain ⟨⟨fault, hown⟩, hentries⟩ :=
          Document.exists_faults_of_read hgiven hthere hread hobject
        refine ⟨⟨fun _ => hentries, fun _ => ⟨fault, hown⟩⟩, fun own _ hok => ?_⟩
        rw [hown] at hok
        cases hok

/-- A file that gives one setting twice, and another one null, in a session with other settings from
before and a variable of another name; and a list of names, which is refused either way. -/
theorem ofFile_agrees_with_load_of_partial :
    let files := ((⟨[], [], []⟩ : Files).place "c.json" (Text.Utf8.encode
      "\x7b\"preset\": 5, \"log_level\": null, \"preset\": \"av1\"\x7d".toList)).place "l.json"
        (Text.Utf8.encode "[\"preset\"]".toList)
    let s : Session :=
      { Session.fresh files "" with
        environment := [("FP_PRESETS", "h264")]
        config := (({} : Config).put .program (.text "old")).put .logFile (.text "old.log") }
    Environment.IsSilent s.environment ∧ s.files.has "c.json" = true ∧
      s.files.has "l.json" = true ∧
      (∃ own loaded after, Config.ofFile s.files "c.json" = .ok own ∧
        (load (.text "c.json")).on s = (.ok loaded, after) ∧ after.config = loaded ∧
        ∀ setting, own.get setting = loaded.get setting) ∧
      ∃ fault fault', Config.ofFile s.files "l.json" = .error fault ∧
        ((load (.text "l.json")).on s).1 = .error fault' := by
  intro files s
  have hsilent : Environment.IsSilent s.environment := fun setting => by cases setting <;> decide
  have hthere : s.files.has "c.json" = true := by decide +kernel
  have hlist : s.files.has "l.json" = true := by decide +kernel
  have hown : (Config.ofFile s.files "c.json").isOk = true := by decide +kernel
  have hok : ((load (.text "c.json")).on s).1.isOk = true := by decide +kernel
  have hfault : (Config.ofFile s.files "l.json").isOk = false := by decide +kernel
  have hagrees := ofFile_agrees_with_load hsilent (by decide) hthere
  have hrefused := ofFile_agrees_with_load hsilent (by decide) hlist
  refine ⟨hsilent, hthere, hlist, ?_, ?_⟩
  · obtain ⟨loaded, after, hload⟩ := Action.exists_of_isOk hok
    cases hown' : Config.ofFile s.files "c.json" with
    | error fault =>
        rw [hown'] at hown
        cases hown
    | ok own =>
        obtain ⟨hafter, hsame⟩ := hagrees.2 own loaded hown' (by rw [hload])
        rw [hload] at hafter
        exact ⟨own, loaded, after, rfl, hload, hafter, hsame⟩
  · cases hown' : Config.ofFile s.files "l.json" with
    | ok own =>
        rw [hown'] at hfault
        cases hfault
    | error fault =>
        obtain ⟨fault', hload⟩ := hrefused.1.mp ⟨fault, hown'⟩
        exact ⟨fault, fault', rfl, hload⟩

end Session

end Transcode
