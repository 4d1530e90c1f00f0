import Transcode.Proofs.CommandLine.LogLines
import Transcode.Proofs.CommandLine.OptionValues
import Transcode.Proofs.CommandLine.Printed
import Transcode.Proofs.Config.Precedence
import Transcode.Proofs.Encoder.Resubmission

/-!
# How a run ends

Once its configuration is loaded and its loggers are set up, a run ends by one table. It lists the
presets if it is asked to, whatever else it is asked. Otherwise it looks for a preset: on the
command line, in the configuration file, in the environment, in this order, where an empty text
counts as one that is given, and a null in the file as well. A preset that is refused ends the run,
before any look at the paths. With a preset, it depends on which paths are not empty whether a whole
command is printed, or the arguments on either side of the input, or nothing.

## Main definitions

* `Options.asked` — the preset that a run asks for;
* `Shows` — what is printed of a preset, and the exit status, by the paths.

## Main results

* `exists_setUp_of_load`, `exists_ready_of_load` — from the command line to the answer;
* `on_answer_of_list`, `on_answer_of_refused`, `on_answer_of_read` — the answers;
* `exists_on_present` — what is printed of a preset;
* `run_ends_by_table` — the table.
-/

namespace Transcode.CommandLine

open Transcode.Action (Keeps on_bind_of_ok)
open Session (SameButLog)

variable {s : Session}

/-! ### The preset that is asked for -/

/-- The preset that a run asks for: the one on its command line, even if it is empty, or the one
that the setting has from its `Config.source`. `Value.null` stands for the default one. -/
def Options.asked (options : Options) (written : List (Text × Value))
    (environment : Entries Text Text) : Value :=
  match options.preset with
  | .null => Config.source written environment .preset
  | given => given

/-- What holds of the value that a file gives a setting, if it gives one, and of all texts, and of
the standard value, holds of its `Config.source`. -/
theorem source_induction {P : Value → Prop} {written : List (Text × Value)} {setting : Setting}
    (hwritten : ∀ value, Entries.last? (.ofString setting.name) written = some value → P value)
    (htext : ∀ t, P (.text t)) (hstandard : P setting.standard) (environment : Entries Text Text) :
    P (Config.source written environment setting) := by
  rw [Config.source]
  split
  next value hvalue => exact hwritten value hvalue
  next =>
    split
    · exact htext _
    · exact hstandard

/-- `presetText` is `asked`, once the settings come from their sources. -/
theorem Options.presetText_eq_asked {options : Options} {config : Config}
    {written : List (Text × Value)} {environment : Entries Text Text}
    (h : ∀ setting, config.get setting = Config.source written environment setting) :
    options.presetText config = options.asked written environment := by
  cases hpreset : options.preset <;> simp only [presetText, asked, hpreset, h]

/-- `asked` is null or a text, if the file gives it so and two hyphens are not glued to its switch.
-/
theorem Options.kind_asked {options : Options} {written : List (Text × Value)}
    (hoptions : IsSwitchValue options.preset) (hgiven : options.preset.kind ≠ .list)
    (hwritten : ∀ value, Entries.last? (.ofString Setting.preset.name) written = some value →
      value.kind = .null ∨ value.kind = .text) (environment : Entries Text Text) :
    (options.asked written environment).kind = .null ∨
      (options.asked written environment).kind = .text := by
  rw [asked]
  cases hvalue : options.preset with
  | null => exact source_induction hwritten (fun _ => .inr rfl) (.inl rfl) environment
  | text t => exact .inr rfl
  | list items => exact absurd (hvalue ▸ rfl) hgiven
  | _ =>
      rw [hvalue] at hoptions
      exact hoptions.elim

/-- The encoder is a text, if the file gives it so. -/
theorem exists_source_program_eq_text {written : List (Text × Value)}
    (hwritten : ∀ value, Entries.last? (.ofString Setting.program.name) written = some value →
      value.kind = .text) (environment : Entries Text Text) :
    ∃ program, Config.source written environment .program = .text program := by
  have hkind : (Config.source written environment .program).kind = .text :=
    source_induction hwritten (fun _ => rfl) rfl environment
  cases hvalue : Config.source written environment .program with
  | text program => exact ⟨program, rfl⟩
  | _ =>
      rw [hvalue] at hkind
      cases hkind

/-! ### Reading the preset -/

/-- `Session.parse` ends in a way that does not hang on the session. -/
theorem on_parse_fst (value : Value) (s t : Session) :
    ((Session.parse value).on s).1 = ((Session.parse value).on t).1 := by
  cases value with
  | text text =>
      rw [Session.on_parse_text, Session.on_parse_text]
      cases Preset.parse text <;> rfl
  | _ => rfl

/-- `Session.parse` refuses a text with a `PresetError`, and nothing else happens, or it reads the
text as a preset that can be encoded. `Value.null` is read as the default one. -/
theorem on_parse_cases {value : Value} (h : value.kind = .null ∨ value.kind = .text) (s : Session) :
    (∃ e, (Session.parse value).on s = (.error (.preset e), s)) ∨
      ∃ p after, (Session.parse value).on s = (.ok p, after) ∧ p.IsEncodable ∧
        SameButLog s after := by
  have hkeeps := Session.keeps_parse SameButLog.programLog value s (SameButLog.refl s)
  cases value with
  | null => exact .inr ⟨Preset.default, s, rfl, trivial, hkeeps⟩
  | text text =>
      cases hparse : Preset.parse text with
      | error e => exact .inl ⟨e, by rw [Session.on_parse_text, hparse]⟩
      | ok p =>
          have hok := Session.parse_text_eq_ok_iff (s := s) |>.mpr hparse
          exact .inr ⟨p, _, Prod.ext hok rfl, Preset.isEncodable_of_parse hparse, hkeeps⟩
  | _ => simp [Value.kind] at h

/-! ### Answers -/

/-- `print` of two parts is `print` of both together. -/
theorem print_print (first second : String) (s : Session) :
    (s.print first).print second = s.print (first ++ second) := by
  simp only [Session.print, String.append_assoc]

/-- `say` of lines one after another prints them all. -/
theorem on_each_say (lines : List String) (s : Session) :
    (Action.each lines say).on s = (.ok (), s.print (String.join (lines.map (· ++ "\n")))) := by
  induction lines generalizing s with
  | nil =>
      rw [List.map_nil, String.join_nil, Session.print, String.append_empty]
      rfl
  | cons line rest ih =>
      have hline : (say line).on s = (.ok (), s.print (line ++ "\n")) := rfl
      rw [Action.each_cons, Action.on_bind, hline]
      dsimp only
      rw [ih, print_print, List.map_cons, String.join_cons]

/-- `answer` is a list of the presets, if one is asked for. -/
theorem on_answer_of_list {options : Options} (h : options.listPresets = true) (s : Session) :
    (answer options).on s =
      (.ok 0, s.print (String.join (Catalog.lines.map (· ++ "\n")))) := by
  rw [answer, h, if_pos rfl, Action.on_bind, on_each_say]
  rfl

/-- `answer` without a list reads the preset that is asked for, which is then refused or shown. -/
theorem on_answer_of_readPreset {options : Options} {outcome : Except PresetError Preset}
    {after : Session} (hlist : options.listPresets = false) :
    (readPreset (options.presetText s.config)).on s = (.ok outcome, after) →
      (answer options).on s =
        match outcome with
        | .error e => (refuse (complaint e.message)).on after
        | .ok p => (present options p).on after := by
  intro h
  rw [answer, hlist, if_neg Bool.false_ne_true, Action.on_bind, Action.on_get]
  dsimp only
  rw [Action.on_bind, h]
  cases outcome <;> rfl

/-- `answer` complains about a preset that is refused. -/
theorem on_answer_of_refused {options : Options} {e : PresetError}
    (hlist : options.listPresets = false)
    (h : (Session.parse (options.presetText s.config)).on s = (.error (.preset e), s)) :
    (answer options).on s = (.ok 2, s.printError (complaint e.message)) := by
  have hread : (readPreset (options.presetText s.config)).on s = (.ok (.error e), s) := by
    rw [readPreset, Action.on_bind, Action.on_attempt, h]
    rfl
  rw [on_answer_of_readPreset hlist hread]
  exact on_refuse _ s

/-- `answer` shows a preset that is read, by `present`. -/
theorem on_answer_of_read {options : Options} {p : Preset} {after : Session}
    (hlist : options.listPresets = false)
    (h : (Session.parse (options.presetText s.config)).on s = (.ok p, after)) :
    (answer options).on s = (present options p).on after := by
  have hread : (readPreset (options.presetText s.config)).on s = (.ok (.ok p), after) := by
    rw [readPreset, Action.on_bind, Action.on_attempt, h]
    rfl
  rw [on_answer_of_readPreset hlist hread]

/-- `present` with one path only prints nothing. -/
theorem exists_on_present_lonePath {options : Options} (p : Preset)
    (h : options.input.isEmpty ≠ options.output.isEmpty) (s : Session) :
    ∃ after, (present options p).on s = (.ok 2, after) ∧ after.output = s.output :=
  ⟨_, on_present_of_lonePath h p s, (Session.sameButLog_logAll _ s).output⟩

/-- What `present` prints of a preset with some `Arguments`, and its exit status, by the paths. -/
structure Shows (a : Arguments) (program input output : Text) (status : Nat) (printed : String) :
    Prop where
  /-- With one path only there is a complaint. -/
  lonePath : (input = [] ↔ output ≠ []) → status = 2 ∧ printed = ""
  /-- With both paths there is a command on one line, which `Shell.join` quotes. -/
  command : input ≠ [] → output ≠ [] →
    status = 0 ∧ printed = (Shell.join (a.words program input output)).plain ++ "\n"
  /-- Without paths there are the arguments on either side of the input, each behind a label. -/
  arguments : input = [] → output = [] →
    status = 0 ∧ printed = "输入参数: " ++ (Shell.join a.input).plain ++ "\n" ++
      ("输出参数: " ++ (Shell.join a.output).plain ++ "\n")

/-- **What `present` does** in a session in which nothing has been printed. -/
theorem exists_on_present {options : Options} {p : Preset} {a : Arguments} {program : Text}
    (hoptions : options.HasSwitchValues) (ha : p.compile.arguments? = some a)
    (hprogram : s.config.get .program = .text program) (hprinted : s.output = "") :
    ∃ status after, (present options p).on s = (.ok status, after) ∧
      Shows a program (textOf options.input) (textOf options.output) status after.output := by
  have hinput := hoptions.input.isEmpty_iff
  have houtput := hoptions.output.isEmpty_iff
  by_cases hi : textOf options.input = [] <;> by_cases ho : textOf options.output = []
  · obtain ⟨after, hpresent, hafter⟩ :=
      exists_on_present_arguments options ha (hinput.mpr hi) (houtput.mpr ho)
    rw [hprinted, String.empty_append] at hafter
    exact ⟨0, after, hpresent, ⟨by simp [hi, ho], by simp [hi], fun _ _ => ⟨rfl, hafter⟩⟩⟩
  · obtain ⟨after, hpresent, hafter⟩ := exists_on_present_lonePath p
      (fun heq => ho (houtput.mp (heq ▸ hinput.mpr hi))) s
    rw [hprinted] at hafter
    exact ⟨2, after, hpresent, ⟨fun _ => ⟨rfl, hafter⟩, by simp [hi], by simp [ho]⟩⟩
  · obtain ⟨after, hpresent, hafter⟩ := exists_on_present_lonePath p
      (fun heq => hi (hinput.mp (heq ▸ houtput.mpr ho))) s
    rw [hprinted] at hafter
    exact ⟨2, after, hpresent, ⟨fun _ => ⟨rfl, hafter⟩, by simp [ho], by simp [hi]⟩⟩
  · obtain ⟨after, hpresent, hafter⟩ := exists_on_present_command options ha hprogram
      (eq_text_of_textOf_ne_nil hi) hi (eq_text_of_textOf_ne_nil ho) ho
    rw [hprinted, String.empty_append] at hafter
    exact ⟨0, after, hpresent, ⟨by simp [hi, ho], fun _ _ => ⟨rfl, hafter⟩, by simp [hi]⟩⟩

/-! ### Before the answer -/

/-- `loadConfig` puts a configuration that can be loaded in force, and changes nothing else. -/
theorem on_loadConfig_of_load {path : Value} {config : Config}
    (h : ((Session.load path).on s).1 = .ok config) (output errors : String) :
    (loadConfig path).on { s with output, errors } =
      (.ok none, { s with output, errors, config }) := by
  obtain ⟨entries, hentries, rfl⟩ := Session.exists_entriesAt_of_load h
  rw [on_loadConfig, hentries]

/-- Its settings are those of their sources. -/
theorem get_of_load {path : Value} {config : Config}
    (h : ((Session.load path).on s).1 = .ok config) (setting : Setting) :
    config.get setting =
      Config.source (Document.writtenEntries s.files path) s.environment setting := by
  obtain ⟨entries, hentries, rfl⟩ := Session.exists_entriesAt_of_load h
  rw [Session.get_putAll_putAll, Document.entriesAt_eq_ofList hentries,
    Session.getD_inEnvironment_eq_source]

/-- `setUp` complains of nothing. -/
theorem keeps_errors_setUp (options : Options) (errors : String) :
    Keeps (fun s => s.errors = errors) (setUp options) :=
  (Session.keeps_reload_of (fun _ _ h => h) fun _ _ h => h).bind fun _ =>
    Action.keeps_get.bind fun _ => Session.keeps_setLevel_of (fun _ _ h => h) _

/-- **From the command line to the `answer`**: with a configuration that can be loaded, and loggers
that can be set up, a run comes to its answer in the session where they are. -/
theorem exists_setUp_of_load {arguments : List String} {options : Options} {config : Config}
    (hparse : Options.parse arguments = .ok options)
    (hload : ((Session.load options.config).on s).1 = .ok config)
    (hset : SetsUpLogging arguments s) :
    ∃ ready,
      (setUp options).on { s with output := "", errors := "", config } = (.ok (), ready) ∧
      (run arguments).on { s with output := "", errors := "" } = (answer options).on ready := by
  have hloaded := on_loadConfig_of_load hload "" ""
  have hready := hset options _ hparse hloaded
  refine ⟨_, Prod.ext hready rfl, ?_⟩
  rw [run, hparse]
  dsimp only
  rw [carryOut_eq, Action.on_bind, hloaded]
  exact on_bind_of_ok hready

/-- By then nothing has been written, and the settings are those of their sources. -/
theorem exists_ready_of_load {arguments : List String} {options : Options} {config : Config}
    (hparse : Options.parse arguments = .ok options)
    (hload : ((Session.load options.config).on s).1 = .ok config)
    (hset : SetsUpLogging arguments s) :
    ∃ ready, (run arguments).on { s with output := "", errors := "" } = (answer options).on ready ∧
      ready.output = "" ∧ ready.errors = "" ∧
      ∀ setting, ready.config.get setting =
        Config.source (Document.writtenEntries s.files options.config) s.environment setting := by
  obtain ⟨ready, hready, hrun⟩ := exists_setUp_of_load hparse hload hset
  let loaded : Session := { s with output := "", errors := "", config }
  have hsame := keeps_setUp options loaded (SameButLog.refl loaded)
  have herrors := keeps_errors_setUp options "" loaded rfl
  rw [hready] at hsame herrors
  refine ⟨ready, hrun, hsame.output, herrors, fun setting => ?_⟩
  rw [hsame.config]
  exact get_of_load hload setting

/-! ### The table -/

/-- **How a run ends.** Let the command line give options whose preset is not the empty list that is
left of two hyphens, let the configuration load from a file that gives a text or null as the preset
and a text as the encoder, if it gives them, and let the loggers be set up. With the presets asked
for, these are printed, whatever else is asked for. Without, the preset that is asked for is either
refused, which is all that is reported, or it is read and compiled, and `Shows` says what is printed
of it. -/
theorem run_ends_by_table {arguments : List String} {options : Options} {config : Config}
    (hparse : Options.parse arguments = .ok options) (hgiven : options.preset.kind ≠ .list)
    (hload : ((Session.load options.config).on s).1 = .ok config)
    (hpreset : ∀ value, Entries.last? (.ofString Setting.preset.name)
      (Document.writtenEntries s.files options.config) = some value →
        value.kind = .null ∨ value.kind = .text)
    (hprogram : ∀ value, Entries.last? (.ofString Setting.program.name)
      (Document.writtenEntries s.files options.config) = some value →
        value.kind = .text)
    (hset : SetsUpLogging arguments s) :
    let written := Document.writtenEntries s.files options.config
    let asked := options.asked written s.environment
    let report := (s.step (.run arguments)).1
    (options.listPresets = true →
      report = ⟨.ok (.exit 0), String.join (Catalog.lines.map (· ++ "\n")), ""⟩) ∧
    (options.listPresets = false →
      (∃ e, ((Session.parse asked).on s).1 = .error (.preset e) ∧
        report = ⟨.ok (.exit 2), "", "错误: " ++ e.message ++ "\n"⟩) ∨
      ∃ p a program status, ((Session.parse asked).on s).1 = .ok p ∧
        ((Session.compile p).on s).1 = .ok a ∧
        Config.source written s.environment .program = .text program ∧
        report.outcome = .ok (.exit status) ∧
        Shows a program (textOf options.input) (textOf options.output) status report.output) := by
  intro written asked report
  obtain ⟨ready, hrun, houtput, herrors, hsource⟩ := exists_ready_of_load hparse hload hset
  have hoptions := Options.hasSwitchValues_of_parse hparse
  refine ⟨fun hlist => ?_, fun hlist => ?_⟩
  · rw [on_answer_of_list hlist] at hrun
    refine (report_run hrun).trans ?_
    rw [Session.print, houtput, herrors, String.empty_append]
  have hasked : options.presetText ready.config = asked := Options.presetText_eq_asked hsource
  have hkind : asked.kind = .null ∨ asked.kind = .text :=
    Options.kind_asked hoptions.preset hgiven hpreset s.environment
  obtain ⟨program, hsourceProgram⟩ := exists_source_program_eq_text hprogram s.environment
  obtain ⟨e, hrefused⟩ | ⟨p, after, hread, hencodable, hafter⟩ := on_parse_cases hkind ready
  · rw [on_answer_of_refused hlist (hasked ▸ hrefused)] at hrun
    refine .inl ⟨e, ?_, (report_run hrun).trans ?_⟩
    · rw [on_parse_fst asked s ready, hrefused]
    · rw [Session.printError, houtput, herrors, String.empty_append, complaint]
  · obtain ⟨a, ha⟩ := Preset.isEncodable_iff.mp hencodable
    have hafterProgram : after.config.get .program = .text program := by
      rw [hafter.config, hsource, hsourceProgram]
    obtain ⟨status, done, hpresent, hshows⟩ :=
      exists_on_present hoptions ha hafterProgram (hafter.output.trans houtput)
    rw [on_answer_of_read hlist (hasked ▸ hread), hpresent] at hrun
    have hreport : report = ⟨.ok (.exit status), done.output, done.errors⟩ := report_run hrun
    refine .inr ⟨p, a, program, status, ?_, Session.compile_eq_ok_iff.mpr ha, hsourceProgram,
      ?_, ?_⟩
    · rw [on_parse_fst asked s ready, hread]
    · rw [hreport]
    · rwa [hreport]

/-- A file with an unknown preset, which is refused though one path is missing too, and though there
is another one in the environment; and an empty preset on the command line, which is taken before
both. -/
theorem run_ends_by_table_of_several :
    let s : Session :=
      { Session.fresh (Files.place ⟨[], [], []⟩ "c.json"
          (Text.Utf8.encode "\x7b\"preset\": \"vp9\"\x7d".toList)) "" with
        environment := [("FP_FFMPEG_PATH", "/opt/ffmpeg"), ("FP_PRESET", "h264")] }
    (∃ e : PresetError, (s.step (.run ["--config=c.json", "--input=a.mkv"])).1 =
      ⟨.ok (.exit 2), "", "错误: " ++ e.message ++ "\n"⟩) ∧
    (s.step (.run ["--config=c.json", "--preset=", "--input=a.mkv", "--output=b.mp4"])).1.output =
      "/opt/ffmpeg -y -i a.mkv b.mp4\n" := by
  intro s
  let lone : Options := { config := .text "c.json", input := .text "a.mkv" }
  let both : Options := { lone with preset := .text "", output := .text "b.mp4" }
  have hlone : Options.parse ["--config=c.json", "--input=a.mkv"] = .ok lone := rfl
  have hboth : Options.parse
      ["--config=c.json", "--preset=", "--input=a.mkv", "--output=b.mp4"] = .ok both := rfl
  have hok : ((Session.load (.text "c.json")).on s).1.isOk = true := by decide +kernel
  obtain ⟨config, after, hload⟩ := Action.exists_of_isOk hok
  let written := Document.writtenEntries s.files (.text "c.json")
  have hpreset : ∀ value, Entries.last? (.ofString Setting.preset.name) written = some value →
      value.kind = .null ∨ value.kind = .text := by decide +kernel
  have hprogram : ∀ value, Entries.last? (.ofString Setting.program.name) written = some value →
      value.kind = .text := by decide +kernel
  have hset := setsUpLogging_of_isOk (s := s) hlone (by decide +kernel)
  have hset' := setsUpLogging_of_isOk (s := s) hboth (by decide +kernel)
  obtain ⟨-, hends⟩ := run_ends_by_table hlone (by decide) (congrArg Prod.fst hload) hpreset
    hprogram hset
  obtain ⟨-, hends'⟩ := run_ends_by_table hboth (by decide) (congrArg Prod.fst hload) hpreset
    hprogram hset'
  constructor
  · have hrefused : ((Session.parse (lone.asked written s.environment)).on s).1.isOk = false := by
      decide +kernel
    obtain ⟨e, -, hreport⟩ | ⟨_, _, _, _, hread, -⟩ := hends rfl
    · exact ⟨e, hreport⟩
    · rw [hread] at hrefused
      cases hrefused
  · have hempty : Preset.parse "" = .ok (.custom (some "")) := by decide +kernel
    have hencoder : textOf (Config.source written s.environment .program) = "/opt/ffmpeg" := by
      decide +kernel
    obtain ⟨e, hrefused, -⟩ | ⟨p, a, program, status, hread, ha, hsource, -, hshows⟩ := hends' rfl
    · rw [show both.asked written s.environment = .text "" from rfl,
        Session.parse_text_eq_error_iff, hempty] at hrefused
      cases hrefused
    · rw [show both.asked written s.environment = .text "" from rfl,
        Session.parse_text_eq_ok_iff, hempty] at hread
      obtain rfl := Except.ok.inj hread
      obtain rfl := Option.some.inj (Session.compile_eq_ok_iff.mp ha)
      rw [hsource] at hencoder
      obtain rfl : program = "/opt/ffmpeg" := hencoder
      rw [(hshows.command (by decide) (by decide)).2]
      decide +kernel

end Transcode.CommandLine
