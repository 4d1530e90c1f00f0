import Transcode.Proofs.Session.Reload

/-!
# The level of a setting

The setting of the level is looked up twice: when the loggers are attached anew, and when they are
set to its level right afterwards. A name that is unknown stands for the common level the first
time, and is a fault the second time. With a name that stands for a level both agree, so that
setting the level leaves each logger that has just been attached as it is.

## Main results

* `setLevel_text_eq_ok_iff` — the names that can be set as levels;
* `equipment_of_setLevel` — what a logger of the program has after a level has been set;
* `setLevel_after_reload` — the level of a setting, looked up twice.
-/

namespace Transcode.Session

open Log (Logger Registry)

variable {s rebuilt after : Session} {name : Text} {logger : Text}

/-- `setLevel` succeeds with the names that stand for a level, and with no others. -/
theorem setLevel_text_eq_ok_iff :
    ((setLevel (.text name)).on s).1 = .ok () ↔
      ∃ level, Log.Level.meaning? name.plain = some (.level level) := by
  rw [on_setLevel_text]
  cases Log.Level.meaning? name.plain with
  | none => simp
  | some meaning => cases meaning <;> simp [Log.Level.Meaning.level?]

/-- After `setLevel`, a logger of the program that has handlers is at that level, with all of them.
The logger above all those of the program is made first, which no other one notices. -/
theorem equipment_of_setLevel (h : (setLevel (.text name)).on s = (.ok (), after))
    (hlogger : Registry.isProgramName logger = true)
    (hhandlers : (s.registry.logger logger).handlers ≠ []) :
    ∃ level, Log.Level.meaning? name.plain = some (.level level) ∧
      (after.registry.logger logger).equipment =
        ((s.registry.logger logger).setLevel level).equipment := by
  obtain ⟨level, hlevel⟩ := setLevel_text_eq_ok_iff.mp (congrArg Prod.fst h)
  rw [on_setLevel_text, hlevel] at h
  obtain rfl := congrArg Prod.snd h
  exact ⟨level, hlevel, Registry.equipment_setProgramLevel_make hlogger hhandlers level⟩

/-- **The level of a setting, looked up twice.** After `reload` without a fault, `setLevel` of the
same setting succeeds exactly if its name stands for a level. If so, each logger that has been
attached stays at the level that it was just given, with all its handlers. -/
theorem setLevel_after_reload (hreload : reload.on s = (.ok (), rebuilt))
    (hname : s.config.get .logLevel = .text name) :
    (((setLevel (.text name)).on rebuilt).1 = .ok () ↔
        ∃ level, Log.Level.meaning? name.plain = some (.level level)) ∧
      ∀ logger, Registry.isProgramName logger = true → (s.registry.logger logger).handlers ≠ [] →
        ∃ level, Log.Level.namedOr Log.Level.info name.plain = .ok level ∧
          (rebuilt.registry.logger logger).level = level ∧
          (∀ handler ∈ (rebuilt.registry.logger logger).handlers, handler.level = level) ∧
          ∀ after, (setLevel (.text name)).on rebuilt = (.ok (), after) →
            (after.registry.logger logger).equipment =
              (rebuilt.registry.logger logger).equipment := by
  refine ⟨setLevel_text_eq_ok_iff, fun logger hlogger hhandlers => ?_⟩
  have hequipped := isEquippedFor_of_reload hreload hlogger hhandlers
  obtain ⟨level, hsetting, hlevel, hlevels⟩ := hequipped.levels
  rw [hname] at hsetting
  refine ⟨level, hsetting, hlevel, hlevels, fun after hafter => ?_⟩
  obtain ⟨level', hmeaning, hequipment⟩ :=
    equipment_of_setLevel hafter hlogger hequipped.handlers_ne_nil
  have hagree : Log.Level.namedOr Log.Level.info name.plain = .ok level' := by
    rw [Log.Level.namedOr, hmeaning]
    rfl
  obtain rfl := Except.ok.inj (hsetting.symm.trans hagree)
  rw [hequipment, Logger.equipment_setLevel hlevel hlevels]

/-- A name with a letter that only becomes an ordinary one among the capitals. -/
theorem setLevel_after_reload_of_dotless :
    let s : Session := { fresh ⟨[], [], []⟩ "" with
      config := ({} : Config).put .logLevel (.text "ınfo") }
    ∃ rebuilt after, reload.on s = (.ok (), rebuilt) ∧
      (setLevel (.text "ınfo")).on rebuilt = (.ok (), after) ∧
      (after.registry.logger "ffmpeg_preset.cli").equipment =
        (rebuilt.registry.logger "ffmpeg_preset.cli").equipment := by
  intro s
  have hok : (reload.on s).1.isOk = true := by decide +kernel
  have hmeaning : Log.Level.meaning? (Text.plain "ınfo") = some (.level Log.Level.info) := by
    decide +kernel
  obtain ⟨_, rebuilt, hreload⟩ := Action.exists_of_isOk hok
  have hname : s.config.get .logLevel = .text "ınfo" := rfl
  obtain ⟨hset, hloggers⟩ := setLevel_after_reload hreload hname
  obtain ⟨level, -, -, -, hsame⟩ := hloggers "ffmpeg_preset.cli" (by decide) (by decide)
  have hafter : (setLevel (.text "ınfo")).on rebuilt =
      (.ok (), ((setLevel (.text "ınfo")).on rebuilt).2) :=
    Prod.ext (hset.mpr ⟨_, hmeaning⟩) rfl
  exact ⟨rebuilt, _, hreload, hafter, hsame _ hafter⟩

/-- An unknown name: the loggers are attached anew at the common level, and cannot be set to it
afterwards. -/
theorem not_setLevel_after_reload_of_unknown :
    let s : Session := { fresh ⟨[], [], []⟩ "" with
      config := ({} : Config).put .logLevel (.text "verbose") }
    ∃ rebuilt, reload.on s = (.ok (), rebuilt) ∧ s.config.get .logLevel = .text "verbose" ∧
      ((setLevel (.text "verbose")).on rebuilt).1 = .error (.unknownLevelName "VERBOSE") := by
  intro s
  have hok : (reload.on s).1.isOk = true := by decide +kernel
  have hmeaning : Log.Level.meaning? (Text.plain "verbose") = none := by decide +kernel
  have hupper : Text.upper (Text.plain "verbose") = "VERBOSE" := by decide +kernel
  obtain ⟨_, rebuilt, hreload⟩ := Action.exists_of_isOk hok
  refine ⟨rebuilt, hreload, rfl, ?_⟩
  rw [on_setLevel_text, hmeaning, hupper]

end Transcode.Session
