import Transcode.Proofs.Log.Pairs
import Transcode.Proofs.Session.Reload
import Transcode.Proofs.Text.Utf8

/-!
# Logging to the console and to a file

With a log file, what is written to the console is written to the file as well, line by line,
whatever loggers are made or set to a level in between. All of it comes from one invariant: the
handlers of the program's loggers are in pairs, so each record is written to both places or to none,
and as often to one as to the other. A record with a `Sign.half` is the exception: the console gets
its line, and the file cannot.

A record that finds no handlers at all would go to the console alone. This cannot happen, since a
logger of the program gets its handlers when it is asked for, and those that the program itself
writes to have some to begin with and lose none.

## Main definitions

* `LogsTo` — a log file is set, and can be written;
* `Mirrors` — and the program's loggers write to it as they write to the console;
* `MirrorsSince` — during a step, from what the file had before;
* `Step.isAboutLog` — the steps that ask for loggers of the program, write records, set levels, or
  work on presets;
* `Step.logsNoHalf` — those whose records have bytes in a file.

## Main results

* `LogsTo.on_attach` — a logger is attached with a pair of handlers;
* `MirrorsSince.log`, `MirrorsSince.on_getLogger`, `keeps_mirrors_setLevel` — the actions;
* `keeps_mirrors_perform`, `Mirrors.step` — a step, with a case for each kind;
* `Mirrors.run` — a whole run, by induction.
-/

namespace Transcode

open Transcode.Action (Keeps keeps_pure)
open Log (ArePaired Handler Record Registry)
open Text.Utf8 (encode)

/-- A log file: its path as it is set, its name by `Files.absolute`, and where it is. -/
structure LogFile where
  path : Text
  name : Text
  location : Location

variable {file : LogFile} {content before : List UInt8} {s after : Session} {asked : Step}

namespace Session

/-! ### A log file that is set -/

/-- A session **logs to** a file if its configuration has a level and the path of the file, and the
path leads to where the file can be written. -/
structure LogsTo (file : LogFile) (s : Session) : Prop where
  level : ∃ level, levelOfSetting (s.config.get .logLevel) = .ok level
  given : file.path ≠ []
  logFile : s.config.get .logFile = .text file.path
  absolute : s.files.absolute file.path = file.name
  writable : s.files.writable file.name = .ok file.location

/-- `LogsTo` is kept when the file gets more content. -/
theorem LogsTo.extend (h : s.LogsTo file) (hconfig : after.config = s.config)
    {bytes : List UInt8} (hfiles : after.files = s.files.extend file.location bytes) :
    after.LogsTo file where
  level := hconfig ▸ h.level
  given := h.given
  logFile := hconfig ▸ h.logFile
  absolute := by
    rw [hfiles]
    exact h.absolute
  writable := by
    rw [hfiles]
    exact Files.writable_store h.writable

/-- `LogsTo` is kept by what is done to something else than the configuration and the files. -/
theorem LogsTo.of_same (h : s.LogsTo file) (hconfig : after.config = s.config)
    (hfiles : after.files = s.files) : after.LogsTo file where
  level := hconfig ▸ h.level
  given := h.given
  logFile := hconfig ▸ h.logFile
  absolute := hfiles ▸ h.absolute
  writable := hfiles ▸ h.writable

/-- The path of the file counts as given, by `Value.isEmpty`. -/
theorem LogsTo.not_isEmpty (h : s.LogsTo file) : ¬(s.config.get .logFile).isEmpty = true := by
  rw [h.logFile]
  simpa [Value.isEmpty] using h.given

/-- `openLog` opens such a file. -/
theorem LogsTo.on_openLog (h : s.LogsTo file) :
    (openLog (s.config.get .logFile)).on s =
      (.ok file.location, { s with files := s.files.extend file.location [] }) := by
  rw [Session.on_openLog, h.logFile]
  dsimp only
  rw [h.absolute, h.writable]

/-- `attach` gives a logger a pair of handlers, and opens the log file. -/
theorem LogsTo.on_attach (h : s.LogsTo file) (name : Text) :
    ∃ level, (attach name).on s =
      (.ok (), { s with
        files := s.files.extend file.location []
        registry := s.registry.attach name level [.console, .file file.location] }) := by
  obtain ⟨level, hlevel⟩ := h.level
  have hconsole : (s.withConsole name level).LogsTo file :=
    h.of_same rfl rfl
  have hpair := Registry.update_attach name level [.console] (.file file.location) s.registry
  rw [← registry_withConsole] at hpair
  refine ⟨level, ?_⟩
  rw [Session.on_attach, hlevel]
  dsimp only
  rw [if_neg h.not_isEmpty]
  have hopen : (openLog (s.config.get .logFile)).on (s.withConsole name level) = _ :=
    hconsole.on_openLog
  rw [hopen]
  show (Except.ok (), { s with
    files := s.files.extend file.location []
    registry := (s.withConsole name level).registry.update name _ }) = _
  rw [hpair]
  rfl

/-! ### Writing to both -/

/-- The program's loggers **mirror** the console in a file: they have handlers for both in pairs,
the ones that the program makes have some, and the file has a content. -/
structure Mirrors (file : LogFile) (content : List UInt8) (s : Session) : Prop
    extends LogsTo file s where
  content : s.files.read file.name = .ok content
  registry : s.registry.IsPaired file.location
  attached : ∀ name ∈ programLoggers, (s.registry.logger name).handlers ≠ []

/-- The loggers mirror the console, and the file has what it had `before` and then all that has been
written to standard error. -/
def MirrorsSince (file : LogFile) (before : List UInt8) (s : Session) : Prop :=
  s.Mirrors file (before ++ encode s.errors.toList)

/-- `MirrorsSince` is kept by changes of the loggers that leave the handlers in pairs. -/
theorem MirrorsSince.change {registry : Registry} (h : s.MirrorsSince file before)
    (hpaired : registry.IsPaired file.location)
    (hattached : ∀ name ∈ programLoggers, (registry.logger name).handlers ≠ []) :
    MirrorsSince file before { s with registry } where
  toLogsTo := h.toLogsTo.of_same rfl rfl
  content := h.content
  registry := hpaired
  attached := hattached

/-- `make` gives a logger no handlers yet. -/
theorem MirrorsSince.make (h : s.MirrorsSince file before) (name : Text) :
    MirrorsSince file before { s with registry := s.registry.make name } :=
  h.change (h.registry.make name) fun other hother => by
    rw [Registry.logger_make]
    exact h.attached other hother

/-- `writeRecord` for the console and then for the file, of a line with `HasNoHalf`. -/
theorem MirrorsSince.writeRecord (h : s.MirrorsSince file before) {record : Record}
    (hline : (record.line s.time).HasNoHalf) :
    ((s.writeRecord record .console).writeRecord record (.file file.location)).MirrorsSince file
      before := by
  let line := (record.line s.time).plain
  rw [writeRecord_file (s := s.writeRecord record .console) hline]
  refine ⟨h.toLogsTo.extend rfl rfl, ?_, h.registry, h.attached⟩
  show (s.files.extend file.location (encode line.toList)).read file.name =
    .ok (before ++ encode (s.errors ++ line).toList)
  rw [Files.read_extend h.writable h.content, String.toList_append, Text.Utf8.encode_append,
    List.append_assoc]

/-- `writeRecord` for handlers in pairs, which are `ArePaired`. -/
theorem MirrorsSince.foldl_writeRecord {handlers : List Handler}
    (hpaired : ArePaired file.location handlers) {record : Record}
    (hline : (record.line s.time).HasNoHalf) (h : s.MirrorsSince file before) :
    (handlers.foldl (fun s handler => s.writeRecord record handler.sink) s).MirrorsSince file
      before := by
  obtain ⟨levels, rfl⟩ := hpaired
  induction levels generalizing s with
  | nil => exact h
  | cons level rest ih =>
      have htime := ((sameButLog_writeRecord record s .console).trans
        (sameButLog_writeRecord record _ (.file file.location))).time
      rw [Log.paired_cons, List.foldl_cons, List.foldl_cons]
      refine ih ?_ (h.writeRecord hline)
      rwa [htime]

/-- `log` writes a record of a logger of the program to both or to none, if its line has
`HasNoHalf`. The logger has handlers, so that nothing goes to the console for want of any. -/
theorem MirrorsSince.log (h : s.MirrorsSince file before) {record : Record}
    (hline : (record.line s.time).HasNoHalf)
    (hname : Registry.isProgramName record.logger = true)
    (hhandlers : (s.registry.logger record.logger).handlers ≠ []) :
    (log record s).MirrorsSince file before := by
  have hsame := Registry.handlers_settle s.registry record.logger record.level
  have hsettled := h.change (h.registry.settle record.logger record.level) fun name hmem => by
    rw [hsame]
    exact h.attached name hmem
  rw [Session.log]
  split
  · rw [deliver, if_neg]
    · exact hsettled.foldl_writeRecord (hsettled.registry.handlersFor hname record.level) hline
    · rw [← hsame] at hhandlers
      rw [List.isEmpty_iff]
      exact Registry.handlersOf_ne_nil hname hhandlers
  · exact hsettled

/-- So it does with the records of the program. -/
theorem MirrorsSince.programLog (record : Record) (hrecord : IsProgramRecord record)
    (s : Session) (h : s.MirrorsSince file before) :
    (Session.log record s).MirrorsSince file before :=
  h.log (hrecord.hasNoHalf_line s.time) (isProgramName_of_mem_programLoggers hrecord.logger)
    (h.attached _ hrecord.logger)

/-! ### Loggers and levels -/

/-- The name of the logger that `getLogger` is asked for: without a name, `Registry.programName`. -/
def loggerName? (name : Value) : Option Text :=
  match name.orElse (.text Registry.programName) with
  | .text name => some name
  | _ => none

/-- `attach` gives a logger of the program that is there a pair of handlers. -/
theorem MirrorsSince.on_attach (h : s.MirrorsSince file before) {name : Text}
    (hname : Registry.isProgramName name = true) {logger : Log.Logger}
    (hfind : s.registry.find? name = some logger) :
    ∃ after, (attach name).on s = (.ok (), after) ∧ after.MirrorsSince file before ∧
      (after.registry.logger name).handlers ≠ [] := by
  obtain ⟨level, hattach⟩ := h.toLogsTo.on_attach name
  let registry := s.registry.attach name level [.console, .file file.location]
  have hself : (registry.logger name).handlers ≠ [] := by
    rw [Registry.handlers_attach hfind]
    simp
  have hlogs : LogsTo file { s with files := s.files.extend file.location [], registry } :=
    h.toLogsTo.extend rfl rfl
  refine ⟨_, hattach, ⟨hlogs, ?_, h.registry.attach hname hfind level, ?_⟩, hself⟩
  · have hread := Files.read_extend h.writable h.content []
    rwa [List.append_nil] at hread
  · intro other hother
    by_cases hsame : other = name
    · rw [hsame]
      exact hself
    · rw [Registry.handlers_attach_of_ne hsame]
      exact h.attached other hother

/-- `getLogger` leaves a logger of the program with handlers, in pairs like the others. -/
theorem MirrorsSince.on_getLogger (h : s.MirrorsSince file before) {name : Value}
    {own : Text} (hown : loggerName? name = some own)
    (hprogram : Registry.isProgramName own = true) :
    ∃ after, (getLogger name).on s = (.ok own, after) ∧ after.MirrorsSince file before ∧
      (after.registry.logger own).handlers ≠ [] := by
  have hmade := h.make own
  have hfind : (s.registry.make own).find? own = some (s.registry.logger own) := by
    rw [Registry.find?_make, if_pos rfl]
  rw [loggerName?] at hown
  split at hown
  next text htext =>
    obtain rfl := Option.some.inj hown
    rw [getLogger, htext]
    dsimp only
    rw [Action.on_bind, Action.on_modify]
    dsimp only
    rw [Action.on_bind, Action.on_get]
    dsimp only
    split
    next hbare =>
      obtain ⟨after, hattach, hafter, hhandlers⟩ := hmade.on_attach hprogram hfind
      rw [Action.on_bind, hattach]
      exact ⟨after, rfl, hafter, hhandlers⟩
    next hhandlers =>
      exact ⟨_, rfl, hmade, by simpa using hhandlers⟩
  next => cases hown

/-- `setLevel` sets both handlers of each pair. -/
theorem keeps_mirrors_setLevel (value : Value) :
    Keeps (MirrorsSince file before) (setLevel value) := by
  intro s h
  have hmade := h.make Registry.programName
  cases value with
  | text name =>
      rw [on_setLevel_text]
      split
      · exact h
      · dsimp only
        split
        · exact hmade
        next level _ =>
          refine hmade.change (hmade.registry.setProgramLevel level) fun name hmem hnil => ?_
          rw [Registry.handlers_setProgramLevel (isProgramName_of_mem_programLoggers hmem),
            List.map_eq_nil_iff] at hnil
          exact hmade.attached name hmem hnil
  | _ => exact h

end Session

/-! ### Steps -/

/-- The step has to do with the program's log only: it asks for a logger of the program or writes a
record to one, sets a level, or works on a preset. -/
def Step.isAboutLog : Step → Bool
  | .getLogger name | .log name _ _ =>
    (Session.loggerName? name).any Registry.isProgramName
  | .setLevel _ | .parse _ | .compileText _ | .compile _ | .build _ _ _ _ => true
  | _ => false

/-- There is no `Sign.half` in a record that the step asks for: neither in the name of its logger
nor in its message. -/
def Step.logsNoHalf : Step → Bool
  | .log name _ message =>
    (Session.loggerName? name).all (fun own => decide own.HasNoHalf) &&
      decide message.message.HasNoHalf
  | _ => true

/-- `Step.logsNoHalf` is about the line of the record that the step writes. -/
theorem Step.hasNoHalf_line_of_logsNoHalf {name message : Value} {level : Nat} {own : Text}
    (h : (Step.log name level message).logsNoHalf = true)
    (hown : Session.loggerName? name = some own) (time : String) :
    (Record.line time ⟨level, own, message.message⟩).HasNoHalf := by
  rw [logsNoHalf, hown, Option.all_some, Bool.and_eq_true, decide_eq_true_iff,
    decide_eq_true_iff] at h
  exact Session.hasNoHalf_line h.1 h.2 time

namespace Session

/-- `perform` writes to both what it writes to one of them, with a case for each kind of `Step`. -/
theorem keeps_mirrors_perform (hasked : asked.isAboutLog = true) (hhalves : asked.logsNoHalf = true) :
    Keeps (MirrorsSince file before) (perform asked) := by
  have hlog : ∀ record, IsProgramRecord record → ∀ s,
      MirrorsSince file before s → MirrorsSince file before (log record s) :=
    MirrorsSince.programLog
  cases asked with
  | getLogger name =>
      obtain ⟨own, hown, hprogram⟩ := (Option.any_eq_true _ _).mp hasked
      intro s h
      obtain ⟨after, hgot, hafter, -⟩ := h.on_getLogger hown hprogram
      rw [perform, Action.on_bind, hgot]
      exact hafter
  | log name level message =>
      obtain ⟨own, hown, hprogram⟩ := (Option.any_eq_true _ _).mp hasked
      intro s h
      obtain ⟨after, hgot, hafter, hhandlers⟩ := h.on_getLogger hown hprogram
      rw [perform, Action.on_bind, hgot]
      have hline := Step.hasNoHalf_line_of_logsNoHalf hhalves hown after.time
      exact hafter.log hline hprogram hhandlers
  | setLevel level => exact (keeps_mirrors_setLevel level).bind fun _ => keeps_pure _
  | parse text => exact (keeps_parse hlog text).bind fun _ => keeps_pure _
  | compileText text =>
      refine (keeps_parse hlog text).bind fun _ => ?_
      exact (keeps_compile hlog _).bind fun _ => keeps_pure _
  | compile preset =>
      refine (keeps_request hlog preset).bind fun _ => ?_
      exact (keeps_compileRequested hlog _).bind fun _ => keeps_pure _
  | build preset input output program =>
      refine (keeps_request hlog preset).bind fun _ => ?_
      exact (keeps_build hlog _ _ _ _).bind fun _ => keeps_pure _
  | _ => cases hasked

/-- `step` starts with nothing written to standard error, and ends with what it reports. -/
theorem Mirrors.step (h : s.Mirrors file content) (hasked : asked.isAboutLog = true)
    (hhalves : asked.logsNoHalf = true) :
    (s.step asked).2.Mirrors file
      (content ++ encode (s.step asked).1.errors.toList) := by
  have hstart : MirrorsSince file content { s with output := "", errors := "" } := by
    refine ⟨h.toLogsTo.of_same rfl rfl, ?_, h.registry, h.attached⟩
    show s.files.read _ = .ok (content ++ [])
    rw [List.append_nil]
    exact h.content
  exact keeps_mirrors_perform hasked hhalves _ hstart

/-- **`run` writes to both what it writes to one of them.** The induction is on its steps. -/
theorem Mirrors.run {steps : List Step} (h : s.Mirrors file content)
    (hsteps : ∀ asked ∈ steps, asked.isAboutLog = true)
    (hhalves : ∀ asked ∈ steps, asked.logsNoHalf = true) :
    (s.run steps).2.Mirrors file
      (content ++ encode (String.join ((s.run steps).1.map Report.errors)).toList) := by
  induction steps generalizing s content with
  | nil =>
      show s.Mirrors file (content ++ [])
      rwa [List.append_nil]
  | cons asked rest ih =>
      have hstep := h.step (hsteps asked List.mem_cons_self) (hhalves asked List.mem_cons_self)
      have hrest := ih hstep (fun other hother => hsteps other (List.mem_cons_of_mem _ hother))
        fun other hother => hhalves other (List.mem_cons_of_mem _ hother)
      show ((s.step asked).2.run rest).2.Mirrors file (content ++ encode (String.join
        ((s.step asked).1.errors :: ((s.step asked).2.run rest).1.map Report.errors)).toList)
      rwa [String.join_cons, String.toList_append, Text.Utf8.encode_append, ← List.append_assoc]

end Session

end Transcode
