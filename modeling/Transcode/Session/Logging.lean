import Transcode.Log.Record
import Transcode.Session.Basic

/-!
# Logging in a session

A logger of the program gets its handlers from the configuration: one for the console and, if a log
file is set, one for that file. All get the level that is set. Handlers are attached once, when the
logger is first asked for, and again for all of the program's loggers when the configuration has
changed.

## Main definitions

* `Session.log` — a record is written, if its logger and then a handler lets it through;
* `Session.attach` — a logger gets its level and its handlers;
* `Session.getLogger` — a logger is made if need be;
* `Session.reload` — the program's loggers are attached anew;
* `Session.setLevel` — the program's loggers are all set to one level.
-/

namespace Transcode.Session

open Log (Handler Record Registry Sink)

/-! ### Records -/

/-- The `Record.line` is written where a handler writes. A file takes the bytes of the line, and
nothing if `Text.Utf8.encodeText` finds none, but then the `Record.report` goes to standard error.
-/
def writeRecord (record : Record) (s : Session) : Sink → Session
  | .console => s.printError (record.line s.time).plain
  | .file location =>
    match Text.Utf8.encodeText (record.line s.time) with
    | .ok bytes => { s with files := s.files.extend location bytes }
    | .error fault => s.printError (record.report fault)

/-- A record is written by every handler of `Registry.handlersFor`. Without any handler at all, the
message of a warning or worse goes to standard error. -/
def deliver (record : Record) (s : Session) : Session :=
  if (s.registry.handlersOf record.logger).isEmpty then
    if Log.Level.warning ≤ record.level then s.printError (record.message.plain ++ "\n") else s
  else
    (s.registry.handlersFor record.logger record.level).foldl
      (fun s handler => s.writeRecord record handler.sink) s

/-- A record is delivered if `Registry.admits` lets it through, which is then decided for its level.
-/
def log (record : Record) (s : Session) : Session :=
  let settled := { s with registry := s.registry.settle record.logger record.level }
  if s.registry.admits record.logger record.level then deliver record settled else settled

/-! ### Attaching handlers -/

/-- The level that a setting stands for, by `Level.namedOr`. An unknown name stands for
`Level.info`. -/
def levelOfSetting : Value → Except Fault Nat
  | .text name => Log.Level.namedOr Log.Level.info name.plain
  | value => .error (.lacks value.kind "upper")

/-- A log file is opened for more text, and made if it is not there: the file that `Files.absolute`
of the path leads to. -/
def openLog : Value → Action Location
  | .text path => do
    let files := (← get).files
    match files.writable (files.absolute path) with
    | .error fault => throw (.file fault)
    | .ok location =>
      modify fun s => { s with files := s.files.extend location [] }
      return location
  | value => throw (.notPath value.kind)

/-- One more handler for a logger. -/
def addHandler (name : Text) (handler : Handler) (s : Session) : Session :=
  s.updateLogger name fun logger => { logger with handlers := logger.handlers ++ [handler] }

/-- A logger gets its level and its handlers from the configuration: `Setting.logLevel` and
`Setting.logFile`. -/
def attach (name : Text) : Action Unit := do
  let config := (← get).config
  let level ← Action.ofExcept (levelOfSetting (config.get .logLevel))
  modify fun s => { s with registry := s.registry.setLevel name level }
  modify (addHandler name ⟨.console, level⟩)
  if (config.get .logFile).isEmpty then return ()
  let location ← openLog (config.get .logFile)
  modify (addHandler name ⟨.file location, level⟩)

/-! ### Loggers -/

/-- The logger of a name, made and attached unless it has handlers. Without a name it is
`Registry.programName`. The result is the name of the logger. -/
def getLogger (name : Value) : Action Text := do
  match name.orElse (.text Registry.programName) with
  | .text name =>
    modify fun s => { s with registry := s.registry.make name }
    if ((← get).registry.logger name).handlers.isEmpty then attach name
    return name
  | _ => throw .notLoggerName

/-- A logger loses its handlers, and `attach` gives it new ones. -/
def reattach (name : Text) : Action Unit := do
  modify (updateLogger name fun logger => { logger with handlers := [] })
  attach name

/-- The loggers of `Registry.programNames` that have handlers are attached anew, one after another,
by `reattach`. -/
def reload : Action Unit := do
  let registry := (← get).registry
  let attached := registry.programNames.filter fun name =>
    !(registry.logger name).handlers.isEmpty
  Action.each attached reattach

/-- The program's loggers and their handlers are all set to the `Level.meaning?` of a name.
`Registry.programName` is made first, so it is there even if what the name stands for is no level.
-/
def setLevel : Value → Action Unit
  | .text name =>
    match Log.Level.meaning? name.plain with
    | none => throw (.unknownLevelName (Text.upper name.plain))
    | some meaning => do
      modify fun s => { s with registry := s.registry.make Registry.programName }
      let level ← Action.ofExcept meaning.level?
      modify fun s => { s with registry := s.registry.setProgramLevel level }
  | value => throw (.lacks value.kind "upper")

end Transcode.Session
