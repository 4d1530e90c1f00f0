import Transcode.Proofs.CommandLine.InvalidFile

/-!
# Configurations that cannot be loaded

The settings of the environment are in force before the configuration file is looked at. So a file
at fault leaves just these behind, whatever was in force before: none of its own values gets
through, not even when the fault comes last, and nothing else of the session is touched. A run that
tells of the fault stops there, before its loggers are set up.

## Main definitions

* `FallsBack` — a session that goes back to the settings of the environment.

## Main results

* `fallsBack_of_load_eq_error` — loading a file at fault;
* `load_fault_leaks_nothing` — that, and a run with such a file.
-/

namespace Transcode

/-- A session **falls back** if all settings become those of the environment, whatever they were,
and nothing else is changed: no other entry of the configuration, no file, and no logger. What has
been written to the two output streams is left open. -/
structure Session.FallsBack (s after : Session) : Prop where
  settings : ∀ setting,
    after.config.get setting = (Config.ofEnvironment s.environment).get setting
  entries : ∀ name, (∀ setting : Setting, name ≠ .ofString setting.name) →
    Entries.get? name after.config.entries = Entries.get? name s.config.entries
  files : after.files = s.files
  registry : after.registry = s.registry
  environment : after.environment = s.environment
  time : after.time = s.time

namespace CommandLine

variable {s after : Session} {path : Value} {fault : Fault}

/-- A session in which `Session.load` has failed falls back, and so does one that has been written
to afterwards. -/
theorem fallsBack_of_load_eq_error (h : (Session.load path).on s = (.error fault, after))
    (output errors : String) : s.FallsBack { after with output, errors } := by
  obtain ⟨-, rfl⟩ := eq_of_load_eq_error h
  refine ⟨fun setting => ?_, fun name hname => ?_, rfl, rfl, rfl, rfl⟩
  · exact Config.get_putAll_settings s.config _ setting
  · exact Config.get?_putAll_settings_of_ne s.config _ hname

/-- **A configuration that cannot be loaded leaks nothing.** Whatever the session, and whatever is
wrong with the file, afterwards the session has fallen back, and nothing has been written. A run
that loads the file leaves a session that has fallen back as well. If the fault is in what the file
holds, the run prints nothing, tells of the fault, and ends with status two. -/
theorem load_fault_leaks_nothing (h : (Session.load path).on s = (.error fault, after)) :
    (s.FallsBack after ∧ after.output = s.output ∧ after.errors = s.errors) ∧
    ∀ arguments options, Options.parse arguments = .ok options → options.config = path →
      s.FallsBack (s.step (.run arguments)).2 ∧
      (fault.kind.isInvalidData = true →
        (s.step (.run arguments)).1 =
          ⟨.ok (.exit 2), "", "错误: 配置文件无效: " ++ fault.message ++ "\n"⟩) := by
  have hstreams : after.output = s.output ∧ after.errors = s.errors := by
    obtain ⟨-, rfl⟩ := eq_of_load_eq_error h
    exact ⟨rfl, rfl⟩
  refine ⟨⟨fallsBack_of_load_eq_error h after.output after.errors, hstreams⟩, ?_⟩
  rintro arguments options hparse rfl
  rw [step_run_of_load_fault hparse h]
  refine ⟨?_, fun hkind => ?_⟩
  · split <;> exact fallsBack_of_load_eq_error h _ _
  · rw [if_pos hkind, complaint, ← String.append_assoc]
    rfl

/-- A file that gives a log file and, at last, a name that is unknown; an environment that gives a
preset; and other values of both before. -/
theorem load_fault_leaks_nothing_of_unknown :
    let s : Session :=
      { Session.fresh
          (Files.place ⟨[], [], []⟩ "c.json" (Text.Utf8.encode
            "\x7b\"log_file\": \"new.log\", \"colour\": true\x7d".toList)) "" with
        environment := [("FP_PRESET", "h264")]
        config := (({} : Config).put .preset (.text "av1")).put .logFile (.text "old.log") }
    let done := s.step (.run ["--config=c.json"])
    done.1 = ⟨.ok (.exit 2), "", "错误: 配置文件无效: 未知配置项: colour\n"⟩ ∧
      done.2.config.get .preset = .text "h264" ∧ done.2.config.get .logFile = .null ∧
      done.2.files = s.files ∧ done.2.registry = s.registry := by
  intro s done
  have hparse : Options.parse ["--config=c.json"] = .ok { config := .text "c.json" } := rfl
  have htold : (((Session.load (.text "c.json")).on s).1.map fun _ => ()).mapError
      (fun fault => (fault.kind.isInvalidData, fault.message)) =
        .error (true, "未知配置项: colour") := by decide +kernel
  cases hload : (Session.load (.text "c.json")).on s with
  | mk outcome loaded =>
      rw [hload] at htold
      cases outcome with
      | ok config => cases htold
      | error fault =>
          obtain ⟨hkind, hmessage⟩ := Prod.mk.inj (Except.error.inj htold)
          obtain ⟨-, hrun⟩ := load_fault_leaks_nothing hload
          obtain ⟨hback, hreport⟩ := hrun _ _ hparse rfl
          refine ⟨?_, ?_, ?_, hback.files, hback.registry⟩
          · rw [show done.1 = _ from hreport hkind, hmessage]
            rfl
          · rw [hback.settings, Config.get_ofEnvironment]
            rfl
          · rw [hback.settings, Config.get_ofEnvironment]
            rfl

end CommandLine

end Transcode
