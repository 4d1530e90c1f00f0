import Transcode.Encoder.Command
import Transcode.Preset.Request
import Transcode.Session.Logging

/-!
# Presets in a session

Reading and compiling presets leaves notes in the log: the reader says what it made of a text, and
the compiler warns of custom arguments that it cannot split. The notes show texts between quotes, so
each of them is one line.

## Main definitions

* `Session.parse` — the preset of a text;
* `Session.compile` — the arguments of a preset;
* `Session.build` — a whole command.
-/

namespace Transcode

/-- The note on a text that was read as a preset, with the text `Text.quoted`. -/
def Preset.parseNote (text : Text) : Preset → String
  | .custom _ => "作为自定义参数处理: " ++ Text.quoted text
  | preset => "解析预设 " ++ Text.quoted text ++ ": " ++ preset.shown

/-- The warning of custom arguments that cannot be split, with their text `Text.quoted`. -/
def unsplitNote (text : Text) (fault : Shell.SplitFault) : String :=
  "无法解析自定义参数 " ++ Text.quoted text ++ ": " ++ fault.message

namespace Session

/-- A message is logged, by `Session.log`. -/
def note (level : Nat) (logger message : Text) : Action Unit :=
  modify (log ⟨level, logger, message⟩)

/-- The preset of a text by `Preset.parse`, with a note on it, and `Preset.default` for
`Value.null`. -/
def parse : Value → Action Preset
  | .null => return Preset.default
  | .text text =>
    match Preset.parse text with
    | .error e => throw (.preset e)
    | .ok preset => do
      note Log.Level.debug "ffmpeg_preset.preset.parser" (preset.parseNote text)
      return preset
  | value => throw (.notText value.kind)

/-- The preset that is asked for. -/
def request : PresetRequest → Action Requested
  | .text text => return .preset (← parse text)
  | .parts codec accelerator quality =>
    Action.ofExcept (Requested.ofParts codec accelerator quality)
  | .arguments arguments => return .ofArguments (arguments.getD .null)

/-- The arguments that `Preset.compile` gives. Custom arguments that cannot be split are none, with
a warning. -/
def compile (preset : Preset) : Action Arguments :=
  match preset.compile with
  | .arguments arguments => return arguments
  | .unsplit text fault => do
    note Log.Level.warning "ffmpeg_preset.preset.compiler" (unsplitNote text fault)
    return ⟨[], []⟩
  | .noCodec => throw .noCodec

/-- The arguments of what was asked for, by `compile`. -/
def compileRequested : Requested → Action Arguments
  | .preset preset => compile preset
  | .unreadable arguments => throw (.lacks arguments.kind "read")

/-- A whole command, by `Arguments.command`. The program is the given one or, unless it is given,
`Setting.program`. -/
def build (preset : Requested) (input output program : Value) : Action (List Value) := do
  let arguments ← compileRequested preset
  return arguments.command (program.orElse ((← get).config.get .program)) input output

end Session

end Transcode
