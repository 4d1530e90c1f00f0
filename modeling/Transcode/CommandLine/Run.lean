import Transcode.CommandLine.Help
import Transcode.CommandLine.Options
import Transcode.Preset.Catalog
import Transcode.Session.Presets
import Transcode.Session.Settings
import Transcode.Shell.Quote

/-!
# Running the program

A command line lists the presets, or shows what one of them compiles to: the whole command if both
paths are given, and otherwise the arguments on either side of the input. Answers go to standard
output. Log lines and complaints go to standard error.

A misused command line, a configuration file that is not valid, and a bad preset are complaints,
with exit status two. Any other fault is left to the caller.

## Main definitions

* `CommandLine.run` — what the program does with its arguments, and its exit status.
-/

namespace Transcode

/-- The line that reports a fault. -/
def complaint (text : String) : String :=
  "错误: " ++ text ++ "\n"

/-- The words of a command, which are texts. An item that `Value.isEmpty` is an empty word. -/
def commandWords : List Value → Except Fault (List Text)
  | [] => .ok []
  | item :: rest =>
    if item.isEmpty then (commandWords rest).map ([] :: ·)
    else
      match item with
      | .text t => (commandWords rest).map (t :: ·)
      | value => .error (.notText value.kind)

namespace CommandLine

/-- A line on standard output. -/
def say (line : String) : Action Unit :=
  modify (Session.print (line ++ "\n"))

/-- A complaint on standard error, and the exit status for it. -/
def refuse (text : String) : Action Nat := do
  modify (Session.printError text)
  return 2

/-- The `terminalWidth` of the environment. -/
def width : Action Nat :=
  return terminalWidth (← get).environment

/-- A complaint about the command line: its `usage`, and the `Misuse` in words. -/
def misused (m : Misuse) : Action Nat := do
  refuse (usage (← width) ++ program ++ ": error: " ++ m.message ++ "\n")

/-- The configuration is loaded with `Session.load`. The result is what makes its file invalid, if
anything `FaultKind.isInvalidData` does; any other fault remains one. -/
def loadConfig (path : Value) : Action (Option Fault) := do
  match ← Action.attempt (Session.load path) with
  | .ok _ => return none
  | .error fault => if fault.kind.isInvalidData then return some fault else throw fault

/-- The preset of a text, by `Session.parse`. The result is the `PresetError`, if there is one; any
other fault remains one. -/
def readPreset (text : Value) : Action (Except PresetError Preset) := do
  match ← Action.attempt (Session.parse text) with
  | .ok preset => return .ok preset
  | .error (.preset e) => return .error e
  | .error fault => throw fault

/-- The text of the preset that is asked for: the one given on the command line, even if it is
empty, or the `Setting.preset`. -/
def Options.presetText (options : Options) (config : Config) : Value :=
  match options.preset with
  | .null => config.get .preset
  | text => text

/-- The note on a preset that is shown. -/
def presentNote (preset : Preset) : String :=
  "使用预设: " ++ preset.shown

/-- What a preset compiles to is shown: its arguments if neither path is given, and the command of
`Session.build` if both are. One of them alone is `Misuse.lonePath`. -/
def present (options : Options) (preset : Preset) : Action Nat := do
  Session.note Log.Level.info "ffmpeg_preset.cli" (presentNote preset)
  if options.input.isEmpty && options.output.isEmpty then
    let arguments ← Session.compile preset
    say ("输入参数: " ++ (Shell.join arguments.input).plain)
    say ("输出参数: " ++ (Shell.join arguments.output).plain)
    return 0
  else if options.input.isEmpty || options.output.isEmpty then misused .lonePath
  else
    let command ← Session.build (.preset preset) options.input options.output .null
    let words ← Action.ofExcept (commandWords command)
    say (Shell.join words).plain
    return 0

/-- The options are carried out: `loadConfig`, setting up the loggers, and the answer. -/
def carryOut (options : Options) : Action Nat := do
  match ← loadConfig options.config with
  | some fault => refuse (complaint ("配置文件无效: " ++ fault.message))
  | none => do
    Session.reload
    Session.setLevel (options.logLevel.orElse ((← get).config.get .logLevel))
    if options.listPresets then
      Action.each Catalog.lines say
      return 0
    else
      match ← readPreset (options.presetText (← get).config) with
      | .error e => refuse (complaint e.message)
      | .ok preset => present options preset

/-- What the program does with its arguments, and its exit status: `carryOut` of what
`Options.parse` reads. -/
def run (arguments : List String) : Action Nat :=
  match Options.parse arguments with
  | .error .help => do
    Action.each (help (← width)) say
    return 0
  | .error (.misuse m) => misused m
  | .ok options => carryOut options

end CommandLine

end Transcode
