import Transcode.Proofs.Config.Settings
import Transcode.Session.Settings

/-!
# Loading settings, step by step

Loading gives the configuration in force all settings of the environment, and then the entries of
the file. What was in force before shows in no setting afterwards, and where no file is named, the
settings are those of the environment.

## Main results

* `on_load` — the result and the session after loading;
* `load_eq_error_iff` — the faults of loading;
* `exists_on_load_null` — loading without a file.
-/

namespace Transcode.Session

/-- `load` puts the settings of the environment in force before it looks at the file, and they stay
so if the file is at fault. -/
theorem on_load (path : Value) (s : Session) :
    (load path).on s =
      match Document.entriesAt s.files path with
      | .error fault =>
        (.error fault,
          { s with config := s.config.putAll (Config.ofEnvironment s.environment).settings })
      | .ok entries =>
        let config := (s.config.putAll (Config.ofEnvironment s.environment).settings).putAll entries
        (.ok config, { s with config }) := by
  rw [load, Action.on_bind, Action.on_modify]
  dsimp only
  rw [Action.on_bind, Action.on_get]
  dsimp only
  rw [Action.on_bind, Action.on_ofExcept]
  cases Document.entriesAt s.files path <;> rfl

/-- `load` is at fault exactly if `Document.entriesAt` is. -/
theorem load_eq_error_iff {path : Value} {s : Session} {fault : Fault} :
    ((load path).on s).1 = .error fault ↔ Document.entriesAt s.files path = .error fault := by
  rw [on_load]
  cases Document.entriesAt s.files path <;> simp

/-- `load` that succeeds has a file that can be read, or none, whose entries come last. -/
theorem exists_entriesAt_of_load {path : Value} {s : Session} {config : Config}
    (h : ((load path).on s).1 = .ok config) :
    ∃ entries, Document.entriesAt s.files path = .ok entries ∧
      config = (s.config.putAll (Config.ofEnvironment s.environment).settings).putAll entries := by
  rw [on_load] at h
  cases hentries : Document.entriesAt s.files path with
  | error fault =>
      rw [hentries] at h
      cases h
  | ok entries =>
      rw [hentries] at h
      exact ⟨entries, rfl, (Except.ok.inj h).symm⟩

/-- `load` without a file leaves the settings of the environment, whatever they were before. -/
theorem exists_on_load_null (s : Session) :
    ∃ config, (load .null).on s = (.ok config, { s with config }) ∧
      ∀ setting, config.get setting = Config.inEnvironment s.environment setting := by
  refine ⟨_, on_load .null s, fun setting => ?_⟩
  show (s.config.putAll (Config.ofEnvironment s.environment).settings).get setting = _
  rw [Config.get_putAll_settings, Config.get_ofEnvironment]

end Transcode.Session
