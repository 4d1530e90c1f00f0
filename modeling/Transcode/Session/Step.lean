import Transcode.CommandLine.Run
import Transcode.Value.Shown

/-!
# Steps of a session

A session goes on from step to step. Each step has an answer or a fault, and what it wrote to the
two output streams. After a fault the session goes on from what the step left behind.

## Main definitions

* `Step` — what can be asked of a session;
* `Answer` — what a step answers;
* `Session.perform` — a step as an action;
* `Session.step`, `Session.run` — one step, and several.
-/

namespace Transcode

/-- What a file is made of from outside: its bytes, or a directory in its place. -/
inductive Placed where
  | bytes (content : List UInt8)
  | directory
  deriving DecidableEq, Repr

/-- What can be asked of a session. -/
inductive Step where
  | setVariable (name value : Value)
  | unsetVariable (name : Value)
  | write (path : Text) (placed : Placed)
  | fileText (path : Text)
  /-- The configuration is loaded, perhaps with a file. -/
  | load (path : Value)
  | showConfig
  | assign (name value : Value)
  | newConfig (entries : List (Text × Value))
  | compareConfigs (a b : List (Text × Value))
  | environmentConfig
  | fileConfig (path : Value)
  | readDocument (path : Value)
  /-- A configuration is saved: one of some settings, or the one in force. -/
  | saveConfig (path : Value) (entries : Option (List (Text × Value)))
  | getLogger (name : Value)
  | log (logger : Value) (level : Nat) (message : Value)
  | setLevel (level : Value)
  | reload
  | listLoggers
  | parse (text : Value)
  | compileText (text : Value)
  | compile (request : PresetRequest)
  | build (request : PresetRequest) (input output program : Value)
  | run (arguments : List String)

/-- A logger as an answer shows it, with its name. -/
structure LoggerView where
  name : String
  logger : Log.Logger
  deriving DecidableEq, Repr

/-- What a step answers. -/
inductive Answer where
  | done
  | text (s : String)
  | truth (b : Bool)
  | value (v : Value)
  | config (c : Config)
  /-- A configuration, to be given with what messages show of it. -/
  | described (c : Config)
  | loggers (views : List LoggerView)
  | preset (p : Preset)
  /-- A preset with its arguments. -/
  | compiledText (p : Preset) (a : Arguments)
  | arguments (a : Arguments)
  | command (items : List Value)
  | exit (status : Nat)

namespace Session

/-- A path has to be a text. -/
def pathOf : Value → Except Fault Text
  | .text path => .ok path
  | value => .error (.notPath value.kind)

/-- A file to be opened is given by its path. A whole number in the range of descriptors is taken
for one, but no descriptor is that of an open file. -/
def pathToOpen : Value → Except Fault Text
  | .text path => .ok path
  | .bool _ => .error (.file .notOpen)
  | .int n =>
    if n < Files.minDescriptor ∨ Files.maxDescriptor < n then .error (.notPath .int)
    else if n < 0 then .error (.file .negativeDescriptor)
    else .error (.file .notOpen)
  | value => .error (.notPath value.kind)

/-- A file is made from outside, with the directories above it. -/
def place (path : Text) (placed : Placed) (s : Session) : Session :=
  match placed with
  | .bytes content => { s with files := s.files.place path content }
  | .directory => { s with files := s.files.addDirectory (s.files.locate path) }

/-- The text of the file at a path, by `Text.Utf8.decode`. -/
def fileText (path : Text) : Action String := do
  match (← get).files.read path with
  | .error fault => throw (.file fault)
  | .ok bytes =>
    match Text.Utf8.decode bytes with
    | .error fault => throw (.undecodable fault)
    | .ok text => return String.ofList text

/-- The loggers that have been made, by name, in the order of `Text.notAfter`. -/
def loggerViews (s : Session) : List LoggerView :=
  (s.registry.loggers.mergeSort fun a b => a.1.notAfter b.1).map fun (name, logger) =>
    ⟨name.plain, logger⟩

/-- The configuration to be saved: that of some settings, or the one in force. The one in force
cannot be saved once it has an entry of `Config.savingName`. -/
def configToSave : Option (List (Text × Value)) → Action Config
  | some entries => Action.ofExcept (Config.ofEntries entries)
  | none => do
    let config := (← get).config
    match Entries.get? Config.savingName config.entries with
    | some value => throw (.notCallable value.kind)
    | none => return config

/-- A `Step` as an `Action`. -/
def perform : Step → Action Answer
  | .setVariable name value => do
    setVariable name value
    return .done
  | .unsetVariable name => do
    unsetVariable name
    return .done
  | .write path placed => do
    modify (place path placed)
    return .done
  | .fileText path => return .text (← fileText path)
  | .load path => return .config (← load path)
  | .showConfig => return .config (← get).config
  | .assign name value => do
    assign name value
    return .done
  | .newConfig entries => return .described (← Action.ofExcept (Config.ofEntries entries))
  | .compareConfigs a b => do
    let a ← Action.ofExcept (Config.ofEntries a)
    let b ← Action.ofExcept (Config.ofEntries b)
    return .truth (a.same b)
  | .environmentConfig => return .config (Config.ofEnvironment (← get).environment)
  | .fileConfig path => do
    let path ← Action.ofExcept (pathToOpen path)
    return .config (← Action.ofExcept (Config.ofFile (← get).files path))
  | .readDocument path => do
    let path ← Action.ofExcept (pathToOpen path)
    return .value (← Action.ofExcept (Document.read (← get).files path))
  | .saveConfig path entries => do
    let config ← configToSave entries
    let path ← Action.ofExcept (pathToOpen path)
    return .text (← save config path)
  | .getLogger name => return .text (← getLogger name).plain
  | .log logger level message => do
    note level (← getLogger logger) message.message
    return .done
  | .setLevel level => do
    setLevel level
    return .done
  | .reload => do
    reload
    return .done
  | .listLoggers => return .loggers (← get).loggerViews
  | .parse text => return .preset (← parse text)
  | .compileText text => do
    let preset ← parse text
    return .compiledText preset (← compile preset)
  | .compile preset => do
    let preset ← request preset
    return .arguments (← compileRequested preset)
  | .build preset input output program => do
    let preset ← request preset
    return .command (← build preset input output program)
  | .run arguments => return .exit (← CommandLine.run arguments)

/-- How a `Step` ended, and what it wrote. -/
structure Report where
  outcome : Except Fault Answer
  output : String
  errors : String

/-- One `Step`: `perform` it, with nothing written yet. -/
def step (s : Session) (request : Step) : Report × Session :=
  match (perform request).on { s with output := "", errors := "" } with
  | (outcome, s) => (⟨outcome, s.output, s.errors⟩, s)

/-- One `step` after another. -/
def run (s : Session) : List Step → List Report × Session
  | [] => ([], s)
  | request :: rest =>
    let (report, s) := s.step request
    let (reports, s) := s.run rest
    (report :: reports, s)

end Session

end Transcode
