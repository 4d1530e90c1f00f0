import Transcode.Proofs.Files.Writing
import Transcode.Proofs.Log.Equipment
import Transcode.Proofs.Session.Changes

/-!
# Attaching loggers anew

When loggers are attached anew without a fault, each of the program's loggers that had handlers gets
the ones that the configuration calls for, whatever it had before. The log file is opened once for
each of them, and is found at the same location every time.

A logger loses its handlers before the level is looked up, so a level that is none leaves it bare;
and from then on it is passed over, since it has no handlers.

## Main definitions

* `CallsFor` — the level and the places that a configuration calls for;
* `IsEquippedFor` — a logger with just the handlers that it calls for.

## Main results

* `callsFor_of_reattach` — one logger;
* `equipment?_each_reattach` — several, by induction on their names;
* `isEquippedFor_of_reload`, `equipment_of_reload_of_bare` — loggers with handlers, and bare ones;
* `isEquippedFor_reload_iff` — the loggers that the program makes.
-/

namespace Transcode.Session

open Log (Handler Logger Registry Sink)

/-! ### What a configuration calls for -/

/-- A configuration **calls for** a level by `levelOfSetting`, and for handlers that write to the
console and, if a log file is set, to the file at its path. -/
structure CallsFor (config : Config) (files : Files) (level : Nat) (sinks : List Sink) : Prop where
  level : levelOfSetting (config.get .logLevel) = .ok level
  sinks :
    if (config.get .logFile).isEmpty then sinks = [.console]
    else ∃ path location, config.get .logFile = .text path ∧
      files.writable (files.absolute path) = .ok location ∧ sinks = [.console, .file location]

variable {config : Config} {files : Files} {level : Nat} {sinks : List Sink}

/-- Without a log file it calls for the console alone. -/
theorem CallsFor.of_console (hlevel : levelOfSetting (config.get .logLevel) = .ok level)
    (hempty : (config.get .logFile).isEmpty = true) : CallsFor config files level [.console] :=
  ⟨hlevel, by rw [if_pos hempty]⟩

/-- With a log file it calls for that one as well. -/
theorem CallsFor.of_file {path : Text} {location : Location}
    (hlevel : levelOfSetting (config.get .logLevel) = .ok level)
    (hgiven : ¬(config.get .logFile).isEmpty = true) (hpath : config.get .logFile = .text path)
    (hlocation : files.writable (files.absolute path) = .ok location) :
    CallsFor config files level [.console, .file location] :=
  ⟨hlevel, by rw [if_neg hgiven]; exact ⟨path, location, hpath, hlocation, rfl⟩⟩

/-- `CallsFor` holds of one level and of one list of places. -/
theorem CallsFor.unique {level' : Nat} {sinks' : List Sink} (h : CallsFor config files level sinks)
    (h' : CallsFor config files level' sinks') : level' = level ∧ sinks' = sinks := by
  refine ⟨Except.ok.inj (h'.level.symm.trans h.level), ?_⟩
  have hsinks := h.sinks
  have hsinks' := h'.sinks
  split at hsinks
  next hempty =>
    rw [if_pos hempty] at hsinks'
    rw [hsinks, hsinks']
  next hempty =>
    rw [if_neg hempty] at hsinks'
    obtain ⟨path, location, hpath, hlocation, rfl⟩ := hsinks
    obtain ⟨path', location', hpath', hlocation', rfl⟩ := hsinks'
    obtain rfl := Value.text.inj (hpath'.symm.trans hpath)
    obtain rfl := Except.ok.inj (hlocation'.symm.trans hlocation)
    rfl

/-- What a configuration `CallsFor` is the console, and one file at most. -/
theorem CallsFor.sinks_cases (h : CallsFor config files level sinks) :
    sinks = [.console] ∨ ∃ location, sinks = [.console, .file location] := by
  have hsinks := h.sinks
  split at hsinks
  next => exact Or.inl hsinks
  next =>
    obtain ⟨_, location, _, _, hsinks⟩ := hsinks
    exact Or.inr ⟨location, hsinks⟩

/-- There is a handler in any case. -/
theorem CallsFor.ne_nil (h : CallsFor config files level sinks) : sinks ≠ [] := by
  obtain rfl | ⟨location, rfl⟩ := h.sinks_cases <;> simp

/-- No place is named twice. -/
theorem CallsFor.nodup (h : CallsFor config files level sinks) : sinks.Nodup := by
  obtain rfl | ⟨location, rfl⟩ := h.sinks_cases <;> simp

/-- The console is among the places. -/
theorem CallsFor.console_mem (h : CallsFor config files level sinks) : .console ∈ sinks := by
  obtain rfl | ⟨location, rfl⟩ := h.sinks_cases <;> simp

/-- `CallsFor` holds of the same once the log file has been opened. -/
theorem CallsFor.extend {path : Text} {location : Location} (h : CallsFor config files level sinks)
    (hpath : config.get .logFile = .text path)
    (hlocation : files.writable (files.absolute path) = .ok location) (bytes : List UInt8) :
    CallsFor config (files.extend location bytes) level sinks where
  level := h.level
  sinks := by
    have hsinks := h.sinks
    split
    next hempty => rwa [if_pos hempty] at hsinks
    next hempty =>
      rw [if_neg hempty] at hsinks
      obtain ⟨path', location', hpath', hlocation', rfl⟩ := hsinks
      obtain rfl := Value.text.inj (hpath'.symm.trans hpath)
      obtain rfl := Except.ok.inj (hlocation'.symm.trans hlocation)
      exact ⟨_, _, hpath, Files.writable_store hlocation, rfl⟩

/-- A logger is **equipped for** a configuration if it has the level and just the handlers that the
configuration calls for, each at that level. -/
def IsEquippedFor (config : Config) (files : Files) (logger : Logger) : Prop :=
  ∃ level sinks, CallsFor config files level sinks ∧ logger.level = level ∧
    logger.handlers = sinks.map fun sink => ⟨sink, level⟩

/-- A logger with `IsEquippedFor` has handlers. -/
theorem IsEquippedFor.handlers_ne_nil {logger : Logger} (h : IsEquippedFor config files logger) :
    logger.handlers ≠ [] := by
  obtain ⟨level, sinks, hcalls, -, hhandlers⟩ := h
  rw [hhandlers]
  exact fun hnil => hcalls.ne_nil (List.map_eq_nil_iff.mp hnil)

/-- A logger with `IsEquippedFor` is at the level of the setting throughout. -/
theorem IsEquippedFor.levels {logger : Logger} (h : IsEquippedFor config files logger) :
    ∃ level, levelOfSetting (config.get .logLevel) = .ok level ∧ logger.level = level ∧
      ∀ handler ∈ logger.handlers, handler.level = level := by
  obtain ⟨level, sinks, hcalls, hlevel, hhandlers⟩ := h
  refine ⟨level, hcalls.level, hlevel, fun handler hmem => ?_⟩
  rw [hhandlers] at hmem
  obtain ⟨sink, -, rfl⟩ := List.mem_map.mp hmem
  rfl

/-! ### One logger -/

/-- A log file that `openLog` could open is at the place its path leads to, and has no more text
yet. -/
theorem exists_of_openLog {path : Value} {location : Location} {s opened : Session}
    (h : (openLog path).on s = (.ok location, opened)) :
    ∃ t, path = .text t ∧ s.files.writable (s.files.absolute t) = .ok location ∧
      opened = { s with files := s.files.extend location [] } := by
  rw [on_openLog] at h
  cases path with
  | text t =>
      dsimp only at h
      cases hlocation : s.files.writable (s.files.absolute t) with
      | error fault =>
          rw [hlocation] at h
          cases h
      | ok found =>
          rw [hlocation] at h
          cases h
          exact ⟨t, rfl, hlocation, rfl⟩
  | _ => cases h

/-- `attach` adds the handlers that the configuration `CallsFor`, and gives the logger its level.
The configuration stays as it is, and calls for the same afterwards. -/
theorem callsFor_of_attach {name : Text} {s after : Session}
    (h : (attach name).on s = (.ok (), after)) :
    ∃ level sinks, CallsFor s.config s.files level sinks ∧
      CallsFor after.config after.files level sinks ∧ after.config = s.config ∧
      after.registry = s.registry.attach name level sinks := by
  rw [on_attach] at h
  cases hlevel : levelOfSetting (s.config.get .logLevel) with
  | error fault =>
      rw [hlevel] at h
      cases h
  | ok level =>
      rw [hlevel] at h
      dsimp only at h
      split at h
      next hempty =>
        cases h
        have hcalls : CallsFor s.config s.files level [.console] :=
          CallsFor.of_console hlevel hempty
        exact ⟨level, _, hcalls, hcalls, rfl, registry_withConsole name level s⟩
      next hempty =>
        split at h
        next => cases h
        next location opened hopened =>
          cases h
          obtain ⟨path, hpath, hlocation, rfl⟩ := exists_of_openLog hopened
          have hcalls := CallsFor.of_file hlevel hempty hpath hlocation
          refine ⟨level, _, hcalls, hcalls.extend hpath hlocation [], rfl, ?_⟩
          show (s.withConsole name level).registry.update name _ = _
          rw [registry_withConsole, Registry.update_attach]
          rfl

/-- `reattach` leaves a logger with the level and the handlers that the configuration `CallsFor`,
and with no other ones. -/
theorem callsFor_of_reattach {name : Text} {s after : Session}
    (h : (reattach name).on s = (.ok (), after)) :
    ∃ level sinks, CallsFor s.config s.files level sinks ∧
      CallsFor after.config after.files level sinks ∧ after.config = s.config ∧
      after.registry =
        (s.registry.update name fun logger => { logger with handlers := [] }).attach name level
          sinks :=
  callsFor_of_attach (s := s.updateLogger name fun logger => { logger with handlers := [] }) h

/-! ### All loggers -/

variable {names : List Text} {s after : Session}

/-- `each` that ends without a fault has had none in its first round, nor in the rest. -/
theorem exists_of_each_eq_ok {first : Text} {rest : List Text} {a : Text → Action Unit}
    (h : (Action.each (first :: rest) a).on s = (.ok (), after)) :
    ∃ mid, (a first).on s = (.ok (), mid) ∧ (Action.each rest a).on mid = (.ok (), after) := by
  rw [Action.each_cons, Action.on_bind] at h
  cases hfirst : (a first).on s with
  | mk outcome mid =>
      rw [hfirst] at h
      cases outcome with
      | error fault => cases h
      | ok value => exact ⟨mid, rfl, h⟩

/-- Where `reattach` has succeeded, there is something that the configuration `CallsFor`. -/
theorem exists_callsFor_of_each (h : (Action.each names reattach).on s = (.ok (), after))
    (hne : names ≠ []) : ∃ level sinks, CallsFor s.config s.files level sinks := by
  cases names with
  | nil => exact absurd rfl hne
  | cons first rest =>
      obtain ⟨mid, hfirst, -⟩ := exists_of_each_eq_ok h
      obtain ⟨level, sinks, hcalls, -⟩ := callsFor_of_reattach hfirst
      exact ⟨level, sinks, hcalls⟩

/-- `reattach` of one logger after another gives them what the configuration `CallsFor`, and the
other ones keep what they have. The induction is on the names; a logger that is named again gets the
same once more. -/
theorem equipment?_each_reattach (h : (Action.each names reattach).on s = (.ok (), after))
    (hcalls : CallsFor s.config s.files level sinks) (name : Text) :
    after.registry.equipment? name =
      if name ∈ names then
        (s.registry.equipment? name).map fun _ => (level, sinks.map fun sink => ⟨sink, level⟩)
      else s.registry.equipment? name := by
  induction names generalizing s with
  | nil =>
      cases h
      rfl
  | cons first rest ih =>
      obtain ⟨mid, hfirst, hrest⟩ := exists_of_each_eq_ok h
      obtain ⟨level', sinks', hcalls', hmid, -, hregistry⟩ := callsFor_of_reattach hfirst
      obtain ⟨rfl, rfl⟩ := hcalls.unique hcalls'
      have hafter := ih hrest hmid
      rw [hregistry] at hafter
      by_cases hname : name = first
      · subst hname
        rw [Registry.equipment?_attach_self, Option.map_map] at hafter
        rw [if_pos List.mem_cons_self, hafter]
        split <;> rfl
      · rw [Registry.equipment?_attach_of_ne hname, Registry.equipment?_update_of_ne hname]
          at hafter
        simp only [List.mem_cons, hname, false_or, hafter]

/-- `reload` is `reattach` of the program's loggers that have handlers. -/
theorem on_reload (s : Session) :
    reload.on s =
      (Action.each (s.registry.programNames.filter fun name =>
        !(s.registry.logger name).handlers.isEmpty) reattach).on s := rfl

/-- **What a logger of the program has after `reload`**: if it had handlers, the level and just the
handlers that the configuration calls for. -/
theorem isEquippedFor_of_reload (h : reload.on s = (.ok (), after)) {name : Text}
    (hname : Registry.isProgramName name = true)
    (hhandlers : (s.registry.logger name).handlers ≠ []) :
    IsEquippedFor s.config s.files (after.registry.logger name) := by
  rw [on_reload] at h
  have hmem : name ∈ s.registry.programNames.filter fun name =>
      !(s.registry.logger name).handlers.isEmpty := by
    rw [List.mem_filter]
    exact ⟨Registry.mem_programNames_of_handlers hname hhandlers, by simpa using hhandlers⟩
  obtain ⟨level, sinks, hcalls⟩ := exists_callsFor_of_each h (List.ne_nil_of_mem hmem)
  have hafter := equipment?_each_reattach h hcalls name
  rw [if_pos hmem] at hafter
  have hequipment := Registry.equipment_logger after.registry name
  rw [hafter] at hequipment
  cases hfound : s.registry.equipment? name with
  | none =>
      have hbare := Registry.equipment_logger s.registry name
      rw [hfound] at hbare
      exact absurd (congrArg Prod.snd hbare) hhandlers
  | some found =>
      rw [hfound] at hequipment
      exact ⟨level, sinks, hcalls, congrArg Prod.fst hequipment, congrArg Prod.snd hequipment⟩

/-- A logger that is not one of them is passed over, and stays as it is. -/
theorem equipment?_of_reload_of_not_mem (h : reload.on s = (.ok (), after)) {name : Text}
    (hname : name ∉ s.registry.programNames.filter fun name =>
      !(s.registry.logger name).handlers.isEmpty) :
    after.registry.equipment? name = s.registry.equipment? name := by
  rw [on_reload] at h
  by_cases hnone : (s.registry.programNames.filter fun name =>
      !(s.registry.logger name).handlers.isEmpty) = []
  · rw [hnone] at h
    cases h
    rfl
  · obtain ⟨level, sinks, hcalls⟩ := exists_callsFor_of_each h hnone
    rw [equipment?_each_reattach h hcalls name, if_neg hname]

/-- So is a logger that is not the program's. -/
theorem equipment?_of_reload_of_not_program (h : reload.on s = (.ok (), after)) {name : Text}
    (hname : Registry.isProgramName name = false) :
    after.registry.equipment? name = s.registry.equipment? name :=
  equipment?_of_reload_of_not_mem h fun hmem =>
    Registry.not_mem_programNames hname _ (List.mem_filter.mp hmem).1

/-- So is a logger without handlers. -/
theorem equipment_of_reload_of_bare (h : reload.on s = (.ok (), after)) {name : Text}
    (hbare : (s.registry.logger name).handlers = []) :
    (after.registry.logger name).equipment = (s.registry.logger name).equipment := by
  rw [Registry.equipment_logger, Registry.equipment_logger,
    equipment?_of_reload_of_not_mem h (by simp [hbare])]

/-- So it is still bare. -/
theorem handlers_of_reload_of_bare (h : reload.on s = (.ok (), after)) {name : Text}
    (hbare : (s.registry.logger name).handlers = []) :
    (after.registry.logger name).handlers = [] :=
  (Logger.handlers_eq_of_equipment (equipment_of_reload_of_bare h hbare)).trans hbare

/-- And it has no handlers that a configuration could call for. -/
theorem not_isEquippedFor_of_reload_of_bare (h : reload.on s = (.ok (), after)) {name : Text}
    (hbare : (s.registry.logger name).handlers = []) :
    ¬IsEquippedFor config files (after.registry.logger name) := by
  exact fun hequipped => hequipped.handlers_ne_nil (handlers_of_reload_of_bare h hbare)

/-- `isProgramName` holds of all `programLoggers`. -/
theorem isProgramName_of_mem_programLoggers {name : Text} (h : name ∈ programLoggers) :
    Registry.isProgramName name = true := by
  revert name
  decide

/-- **After `reload` without a fault**, each of the `programLoggers` has just the level and the
handlers that the configuration calls for, if it had handlers before; and only then, since a logger
that an earlier fault has left bare is passed over. -/
theorem isEquippedFor_reload_iff (h : reload.on s = (.ok (), after)) {name : Text}
    (hname : name ∈ programLoggers) :
    IsEquippedFor s.config s.files (after.registry.logger name) ↔
      (s.registry.logger name).handlers ≠ [] := by
  refine ⟨fun hequipped hbare => ?_,
    isEquippedFor_of_reload h (isProgramName_of_mem_programLoggers hname)⟩
  exact not_isEquippedFor_of_reload_of_bare h hbare hequipped

/-- At the start, with another level and a log file that is not there yet. -/
theorem isEquippedFor_reload_of_logFile :
    let s : Session := { fresh ⟨[], [], []⟩ "" with
      config := (({} : Config).put .logLevel (.text "debug")).put .logFile (.text "a.log") }
    ∃ after, reload.on s = (.ok (), after) ∧
      IsEquippedFor s.config s.files (after.registry.logger "ffmpeg_preset.cli") := by
  intro s
  have hok : (reload.on s).1.isOk = true := by decide +kernel
  obtain ⟨_, after, h⟩ := Action.exists_of_isOk hok
  exact ⟨after, h, (isEquippedFor_reload_iff h (by decide)).mpr (by decide)⟩

/-- A level that is null leaves the first logger bare, and a later reload, with the standard
settings again, ends without a fault and still leaves it so. -/
theorem not_isEquippedFor_after_fault :
    let s := ((fresh ⟨[], [], []⟩ "").run
      [.assign (.text "log_level") .null, .reload, .load .null]).2
    ∃ after, reload.on s = (.ok (), after) ∧
      Text.ofString "ffmpeg_preset.preset.compiler" ∈ programLoggers ∧
      ¬IsEquippedFor s.config s.files
        (after.registry.logger "ffmpeg_preset.preset.compiler") := by
  intro s
  have hok : (reload.on s).1.isOk = true := by decide +kernel
  have hbare : (s.registry.logger "ffmpeg_preset.preset.compiler").handlers = [] := by
    decide +kernel
  obtain ⟨_, after, h⟩ := Action.exists_of_isOk hok
  exact ⟨after, h, by decide, not_isEquippedFor_of_reload_of_bare h hbare⟩

end Transcode.Session
