import Mathlib.Control.Monad.Basic
import Transcode.Proofs.Session.Mirrors

/-!
# The console and the log file

After all loggers have been attached anew without a fault, with a log file set, the program's
loggers have handlers in pairs: each of them has been opened at the same place, and a logger that
was bare has stayed so. From then on the log file gets what the console gets.

## Main definitions

* `HasLogFile` — a session whose loggers write to a log file;
* `FileGetsErrors` — what is added to a file is what standard error gets.

## Main results

* `LogsTo.of_each_reattach`, `LogsTo.isPaired_of_reload`, `exists_mirrors_of_reload` — loggers that
  have just been attached anew;
* `log_file_mirrors_errors` — the text of the log file, and that of standard error;
* `log_file_misses_errors` — how they differ if a message has a half, and where the file is not.
-/

namespace Transcode

open Log (Registry Sink)

variable {file : LogFile} {s after : Session}

namespace Session

/-! ### After all loggers have been attached anew -/

/-- `reattach` opens the log file, which is there from then on. -/
theorem LogsTo.of_reattach (h : s.LogsTo file) {name : Text}
    (hreattach : (reattach name).on s = (.ok (), after)) :
    after.LogsTo file ∧ ∃ content, after.files.read file.name = .ok content := by
  have hbare : LogsTo file (s.updateLogger name fun logger => { logger with handlers := [] }) :=
    h.of_same rfl rfl
  obtain ⟨level, hattach⟩ := hbare.on_attach name
  obtain rfl := congrArg Prod.snd (hreattach.symm.trans hattach)
  exact ⟨h.extend rfl rfl, _, Files.read_store h.writable⟩

/-- So does `reattach` of several, one after another. -/
theorem LogsTo.of_each_reattach {names : List Text} (h : s.LogsTo file) (hne : names ≠ [])
    (heach : (Action.each names reattach).on s = (.ok (), after)) :
    after.LogsTo file ∧ ∃ content, after.files.read file.name = .ok content := by
  induction names generalizing s with
  | nil => exact absurd rfl hne
  | cons first rest ih =>
      obtain ⟨mid, hfirst, hrest⟩ := exists_of_each_eq_ok heach
      obtain ⟨hmid, hread⟩ := h.of_reattach hfirst
      cases rest with
      | nil =>
          cases hrest
          exact ⟨hmid, hread⟩
      | cons next rest => exact ih hmid (List.cons_ne_nil _ _) hrest

/-- A session with `LogsTo` has a configuration that `CallsFor` a pair of handlers. -/
theorem LogsTo.exists_callsFor (h : s.LogsTo file) :
    ∃ level, CallsFor s.config s.files level [.console, .file file.location] := by
  obtain ⟨level, hlevel⟩ := h.level
  have hwritable := h.writable
  rw [← h.absolute] at hwritable
  exact ⟨level, CallsFor.of_file hlevel h.not_isEmpty h.logFile hwritable⟩

/-- A configuration that `CallsFor` handlers, and has the path of a log file, gives that file. -/
theorem CallsFor.exists_logsTo {level : Nat} {sinks : List Sink} {path : Text}
    (h : CallsFor s.config s.files level sinks) (hpath : s.config.get .logFile = .text path)
    (hgiven : path ≠ []) : ∃ location, s.LogsTo ⟨path, s.files.absolute path, location⟩ := by
  have hsinks := h.sinks
  have hempty : ¬(Value.text path).isEmpty = true := by simpa [Value.isEmpty] using hgiven
  rw [hpath, if_neg hempty] at hsinks
  obtain ⟨found, location, hfound, hlocation, -⟩ := hsinks
  obtain rfl := Value.text.inj hfound
  exact ⟨location, ⟨level, h.level⟩, hgiven, hpath, rfl, hlocation⟩

/-- After `reload` with a log file, the program's loggers have handlers in pairs. Those that were
bare have stayed so. -/
theorem LogsTo.isPaired_of_reload (h : s.LogsTo file) (hplaced : s.registry.IsPlaced)
    (hreload : reload.on s = (.ok (), after)) (hroot : after.registry.root.handlers = []) :
    after.registry.IsPaired file.location where
  placed := by
    have hreaches := reachedFrom_reload s Relation.ReflTransGen.refl
    rw [hreload] at hreaches
    exact hreaches.isPlaced hplaced
  root := by
    rw [Registry.logger, if_pos rfl]
    exact hroot
  program {name} hname := by
    by_cases hbare : (s.registry.logger name).handlers = []
    · rw [handlers_of_reload_of_bare hreload hbare]
      exact .nil
    · obtain ⟨level, hcalls⟩ := h.exists_callsFor
      obtain ⟨level', sinks, hcalls', -, hhandlers⟩ := isEquippedFor_of_reload hreload hname hbare
      obtain ⟨rfl, rfl⟩ := hcalls.unique hcalls'
      rw [hhandlers]
      exact .pair file.location _

/-- A session **has a log file** at a path if that is its setting, the loggers that the program
makes have handlers, and the root logger has none. -/
structure HasLogFile (path : Text) (s : Session) : Prop where
  logFile : s.config.get .logFile = .text path
  given : path ≠ []
  attached : ∀ name ∈ programLoggers, (s.registry.logger name).handlers ≠ []
  root : s.registry.root.handlers = []

/-- After `reload` with a log file, the program's loggers mirror the console in it. -/
theorem exists_mirrors_of_reload {path : Text} (hplaced : s.registry.IsPlaced)
    (hreload : reload.on s = (.ok (), after)) (hfile : after.HasLogFile path) :
    ∃ location content, after.Mirrors ⟨path, after.files.absolute path, location⟩ content := by
  have hsame := keeps_reload s (SameButLog.refl s)
  rw [hreload] at hsame
  have hpath := hfile.logFile
  rw [hsame.config] at hpath
  -- a logger that has handlers now had some before, and tells what the configuration calls for
  have hname := isProgramName_of_mem_programLoggers parser_mem_programLoggers
  have hbefore : (s.registry.logger "ffmpeg_preset.preset.parser").handlers ≠ [] := fun hbare =>
    hfile.attached _ parser_mem_programLoggers (handlers_of_reload_of_bare hreload hbare)
  obtain ⟨level, sinks, hcalls, -⟩ := isEquippedFor_of_reload hreload hname hbefore
  obtain ⟨location, hlogs⟩ := hcalls.exists_logsTo hpath hfile.given
  have hpaired := hlogs.isPaired_of_reload hplaced hreload hfile.root
  rw [on_reload] at hreload
  have hmem : Text.ofString "ffmpeg_preset.preset.parser" ∈
      s.registry.programNames.filter fun name => !(s.registry.logger name).handlers.isEmpty :=
    List.mem_filter.mpr
      ⟨Registry.mem_programNames_of_handlers hname hbefore, by simpa using hbefore⟩
  obtain ⟨hafter, content, hread⟩ := hlogs.of_each_reattach (List.ne_nil_of_mem hmem) hreload
  refine ⟨location, content, ?_⟩
  have habsolute : after.files.absolute path = s.files.absolute path := hafter.absolute
  rw [habsolute]
  exact ⟨hafter, hread, hpaired, hfile.attached⟩

/-- `reload` leaves the setting as it is. -/
theorem hasLogFile_reload {path : Text} (hpath : s.config.get .logFile = .text path)
    (hgiven : path ≠ []) (hok : (reload.on s).1.isOk = true)
    (hattached : ∀ name ∈ programLoggers, ((reload.on s).2.registry.logger name).handlers ≠ [])
    (hroot : (reload.on s).2.registry.root.handlers = []) :
    reload.on s = (.ok (), (reload.on s).2) ∧ (reload.on s).2.HasLogFile path := by
  have hsame := keeps_reload s (SameButLog.refl s)
  obtain ⟨_, after, hreload⟩ := Action.exists_of_isOk hok
  rw [hreload] at hattached hroot hsame ⊢
  exact ⟨rfl, hsame.config ▸ hpath, hgiven, hattached, hroot⟩

/-- `IsPlaced` holds of the loggers at the start, so it does in every session. -/
theorem isPlaced_run (files : Files) (time : String) (steps : List Step) :
    ((fresh files time).run steps).2.registry.IsPlaced := by
  have hstart : startingRegistry.IsPlaced :=
    startingRegistry_induction (fun _ hmem => absurd hmem List.not_mem_nil)
      fun r name h => (h.make name).update name _
  refine (reaches_run _ steps).isPlaced ?_
  rw [registry_fresh]
  exact hstart

/-- In some steps a file **gets what standard error gets**: the bytes that are added to the file at
a path are those of all the text that the steps write to standard error. -/
def FileGetsErrors (s : Session) (path : Text) (steps : List Step) : Prop :=
  ∃ before appended,
    s.files.read path = .ok before ∧
    (s.run steps).2.files.read path = .ok (before ++ appended) ∧
    Text.Utf8.decode appended = .ok (String.join ((s.run steps).1.map Report.errors)).toList

/-- **The console and the log file.** Whatever has been done before, `reload` has just ended without
a fault and left a session with `HasLogFile`. Then, whatever loggers of the program are asked for,
records without halves are written to them, levels are set and presets are read, compiled and built
into commands, with or without faults: the text that is added to the file at `Files.absolute` of the
path is all that is written to standard error. -/
theorem log_file_mirrors_errors (files : Files) (time : String) (steps later : List Step)
    {rebuilt : Session} {path : Text}
    (hreload : reload.on ((fresh files time).run steps).2 = (.ok (), rebuilt))
    (hfile : rebuilt.HasLogFile path) (hlater : ∀ asked ∈ later, asked.isAboutLog = true)
    (hhalves : ∀ asked ∈ later, asked.logsNoHalf = true) :
    rebuilt.FileGetsErrors (rebuilt.files.absolute path) later := by
  obtain ⟨location, before, hmirrors⟩ :=
    exists_mirrors_of_reload (isPlaced_run files time steps) hreload hfile
  exact ⟨before, _, hmirrors.content, (hmirrors.run hlater hhalves).content,
    Text.Utf8.decode_encode _⟩

/-- A logger above those that the program makes comes in between, which doubles the lines of those.
-/
theorem log_file_mirrors_errors_of_doubled :
    let s := ((fresh ⟨[], [], []⟩ "12:00").run [.assign (.text "log_file") (.text "a.log")]).2
    let later : List Step := [.log .null Log.Level.warning (.text "é"), .setLevel (.text "debug"),
      .log (.text "ffmpeg_preset.cli") Log.Level.debug (.text "x")]
    ∃ rebuilt, reload.on s = (.ok (), rebuilt) ∧
      String.join ((rebuilt.run later).1.map Report.errors) =
        "12:00 | WARNING  | ffmpeg_preset | é\n" ++ "12:00 | DEBUG    | ffmpeg_preset.cli | x\n"
          ++ "12:00 | DEBUG    | ffmpeg_preset.cli | x\n" ∧
      rebuilt.FileGetsErrors (rebuilt.files.absolute "a.log") later := by
  intro s later
  obtain ⟨hok, hattached, hroot, herrors⟩ :
      (reload.on s).1.isOk = true ∧
      (∀ name ∈ programLoggers, ((reload.on s).2.registry.logger name).handlers ≠ []) ∧
      (reload.on s).2.registry.root.handlers = [] ∧
      String.join (((reload.on s).2.run later).1.map Report.errors) =
        "12:00 | WARNING  | ffmpeg_preset | é\n" ++ "12:00 | DEBUG    | ffmpeg_preset.cli | x\n"
          ++ "12:00 | DEBUG    | ffmpeg_preset.cli | x\n" := by
    decide +kernel
  have hpath : s.config.get .logFile = .text "a.log" := rfl
  have hlater : ∀ asked ∈ later, asked.isAboutLog = true := by decide +kernel
  have hhalves : ∀ asked ∈ later, asked.logsNoHalf = true := by decide +kernel
  obtain ⟨hreload, hfile⟩ := hasLogFile_reload hpath (by decide) hok hattached hroot
  exact ⟨_, hreload, herrors,
    log_file_mirrors_errors _ _ _ later hreload hfile hlater hhalves⟩

/-- Where the file does not get what standard error gets. A message with a `Sign.half` goes to
standard error, where a report of it follows, but the file stays as it is. And at a path with two
dots behind a directory that is not there, there is no file: the lines go to the one of
`Files.absolute`. -/
theorem log_file_misses_errors :
    let s (path : Text) : Session :=
      ((fresh ⟨[], [], []⟩ "12:00").run [.assign (.text "log_file") (.text path)]).2
    let later (message : Text) : List Step :=
      [.log (.text "ffmpeg_preset.cli") Log.Level.warning (.text message)]
    let errors (rebuilt : Session) (message : Text) : String :=
      String.join ((rebuilt.run (later message)).1.map Report.errors)
    (∀ message, ∀ asked ∈ later message, asked.isAboutLog = true) ∧
    (∃ rebuilt report, reload.on (s "a.log") = (.ok (), rebuilt) ∧ rebuilt.HasLogFile "a.log" ∧
      errors rebuilt [.half 0] = "12:00 | WARNING  | ffmpeg_preset.cli | \uFFFD\n" ++ report ∧
      rebuilt.files.read "a.log" = .ok [] ∧
      (rebuilt.run (later [.half 0])).2.files.read "a.log" = .ok []) ∧
    ∃ rebuilt, reload.on (s "logs/../a.log") = (.ok (), rebuilt) ∧
      rebuilt.HasLogFile "logs/../a.log" ∧
      errors rebuilt "x" = "12:00 | WARNING  | ffmpeg_preset.cli | x\n" ∧
      rebuilt.files.read "logs/../a.log" = .error (.missing "logs/../a.log") ∧
      (rebuilt.run (later "x")).2.files.read "logs/../a.log" =
        .error (.missing "logs/../a.log") := by
  intro s later errors
  have hlater (message : Text) : ∀ asked ∈ later message, asked.isAboutLog = true := by
    intro asked hmem
    rw [List.mem_singleton.mp hmem]
    exact show (some (Text.ofString "ffmpeg_preset.cli")).any Registry.isProgramName = true by
      decide
  refine ⟨hlater, ?half, ?dots⟩
  case half =>
    let start := s "a.log"
    let record : Log.Record := ⟨Log.Level.warning, "ffmpeg_preset.cli", [.half 0]⟩
    obtain ⟨hok, hattached, hroot, herrors, hbefore, hafter⟩ :
        (reload.on start).1.isOk = true ∧
        (∀ name ∈ programLoggers, ((reload.on start).2.registry.logger name).handlers ≠ []) ∧
        (reload.on start).2.registry.root.handlers = [] ∧
        errors (reload.on start).2 [.half 0] =
          "12:00 | WARNING  | ffmpeg_preset.cli | \uFFFD\n" ++ record.report ⟨0xD800, 39, 39⟩ ∧
        (reload.on start).2.files.read "a.log" = .ok [] ∧
        ((reload.on start).2.run (later [.half 0])).2.files.read "a.log" = .ok [] := by
      decide +kernel
    have hpath : start.config.get .logFile = .text "a.log" := rfl
    obtain ⟨hreload, hfile⟩ := hasLogFile_reload hpath (by decide) hok hattached hroot
    exact ⟨_, _, hreload, hfile, herrors, hbefore, hafter⟩
  case dots =>
    let start := s "logs/../a.log"
    obtain ⟨hok, hattached, hroot, herrors, hbefore, hafter⟩ :
        (reload.on start).1.isOk = true ∧
        (∀ name ∈ programLoggers, ((reload.on start).2.registry.logger name).handlers ≠ []) ∧
        (reload.on start).2.registry.root.handlers = [] ∧
        errors (reload.on start).2 "x" = "12:00 | WARNING  | ffmpeg_preset.cli | x\n" ∧
        (reload.on start).2.files.read "logs/../a.log" = .error (.missing "logs/../a.log") ∧
        ((reload.on start).2.run (later "x")).2.files.read "logs/../a.log" =
          .error (.missing "logs/../a.log") := by
      decide +kernel
    have hpath : start.config.get .logFile = .text "logs/../a.log" := rfl
    obtain ⟨hreload, hfile⟩ := hasLogFile_reload hpath (by decide) hok hattached hroot
    exact ⟨_, hreload, hfile, herrors, hbefore, hafter⟩

end Session

end Transcode
