import Transcode.Proofs.CommandLine.LevelChoice
import Transcode.Proofs.Config.Agreement
import Transcode.Proofs.Session.Alike
import Transcode.Session.Step

/-!
# Answers that do not hang on logging

What the program prints, and how it ends, does not hang on logging. Two runs may start in any two
sessions, with a level in front of the command line of one of them; as long as they are given the
same otherwise, and neither stops while its loggers are set up, they print the same and end in the
same way.

Up to the preset the two runs are followed side by side: the command lines give options that differ
at most in the level, the files that are loaded give settings that agree but for logging, and
setting up the loggers leaves what answers are made of alone. From there on both do the same.

## Main definitions

* `setUp`, `answer` — the two halves of what is done once the configuration is loaded;
* `SetsUpLogging` — a run that does not stop while its loggers are set up.

## Main results

* `carryOut_eq` — the options are carried out in these halves;
* `alike_answer` — the second half ends alike in sessions that agree;
* `run_independent_of_logging` — two runs.
-/

namespace Transcode.CommandLine

open Transcode.Action (Alike alike_pure alike_throw alike_ofExcept alike_modify alike_get_bind
  alike_each on_bind_of_ok)
open Session (SameAnswers SameButLog)

/-! ### The two halves of a run -/

/-- The loggers are set up for the options, by `Session.reload` and `Session.setLevel`. -/
def setUp (options : Options) : Action Unit := do
  Session.reload
  Session.setLevel (options.logLevel.orElse ((← get).config.get .logLevel))

/-- The presets are listed, or the one that is asked for is shown. -/
def answer (options : Options) : Action Nat := do
  if options.listPresets then
    Action.each Catalog.lines say
    return 0
  else
    match ← readPreset (options.presetText (← get).config) with
    | .error e => refuse (complaint e.message)
    | .ok preset => present options preset

/-- `carryOut` is `loadConfig`, `setUp`, and then `answer`. -/
theorem carryOut_eq (options : Options) :
    carryOut options = (do
      match ← loadConfig options.config with
      | some fault => refuse (complaint ("配置文件无效: " ++ fault.message))
      | none => do
        setUp options
        answer options) := by
  refine bind_congr fun outcome => ?_
  cases outcome with
  | some fault => rfl
  | none =>
      simp only [setUp, bind_assoc]
      rfl

/-- `answer` does not hang on the level. -/
theorem answer_withoutLevel (options : Options) : answer options.withoutLevel = answer options :=
  rfl

/-- Nothing stops a run while its loggers are set up. -/
def SetsUpLogging (arguments : List String) (s : Session) : Prop :=
  ∀ options loaded, Options.parse arguments = .ok options →
    (loadConfig options.config).on { s with output := "", errors := "" } = (.ok none, loaded) →
    ((setUp options).on loaded).1 = .ok ()

/-- It is enough that `setUp` ends without a fault after loading, whatever loading comes to. -/
theorem setsUpLogging_of_isOk {arguments : List String} {options : Options} {s : Session}
    (hparse : Options.parse arguments = .ok options)
    (h : ((setUp options).on
      ((loadConfig options.config).on { s with output := "", errors := "" }).2).1.isOk = true) :
    SetsUpLogging arguments s := by
  intro found loaded hfound hload
  rw [hparse] at hfound
  obtain rfl := Except.ok.inj hfound
  rw [hload] at h
  obtain ⟨_, after, hset⟩ := Action.exists_of_isOk h
  rw [hset]

/-! ### Answers -/

/-- `say` ends alike where what is printed keeps the relation. -/
theorem alike_say {R : Session → Session → Prop}
    (hprint : ∀ s t text, R s t → R (s.print text) (t.print text)) (line : String) :
    Alike R (say line) (say line) :=
  alike_modify fun s t h => hprint s t (line ++ "\n") h

/-- `print` adds the same to what is on standard output. -/
theorem sameAnswers_print (s t : Session) (text : String) (h : SameAnswers s t) :
    SameAnswers (s.print text) (t.print text) :=
  ⟨h.program, h.preset, congrArg (· ++ text) h.output⟩

/-- The text that `misused` writes to standard error. -/
def Misuse.told (m : Misuse) (environment : Entries Text Text) : String :=
  usage (terminalWidth environment) ++ program ++ ": error: " ++ m.message ++ "\n"

/-- `refuse` writes to standard error. -/
theorem on_refuse (text : String) (s : Session) :
    (refuse text).on s = (.ok 2, s.printError text) := rfl

/-- `refuse` does not show in answers, whatever it says. -/
theorem alike_refuse (text text' : String) :
    Alike SameAnswers (refuse text) (refuse text') := by
  intro s t h
  rw [on_refuse, on_refuse]
  exact ⟨rfl, h.program, h.preset, h.output⟩

/-- `width` is that of the environment. -/
theorem on_width (s : Session) : width.on s = (.ok (terminalWidth s.environment), s) := rfl

/-- `misused` tells of a misuse in lines of the width of the terminal, on standard error. -/
theorem on_misused (m : Misuse) (s : Session) :
    (misused m).on s = (.ok 2, s.printError (m.told s.environment)) := by
  rw [misused, Action.on_bind, on_width]
  exact on_refuse _ s

/-- So `misused` writes some text, and nothing else. -/
theorem exists_on_misused (m : Misuse) (s : Session) :
    ∃ text, (misused m).on s = (.ok 2, s.printError text) :=
  ⟨_, on_misused m s⟩

/-- So it does not show in answers. -/
theorem alike_misused (m : Misuse) : Alike SameAnswers (misused m) (misused m) := by
  intro s t h
  obtain ⟨text, hs⟩ := exists_on_misused m s
  obtain ⟨text', ht⟩ := exists_on_misused m t
  rw [hs, ht]
  exact ⟨rfl, h.program, h.preset, h.output⟩

/-- `readPreset` ends alike. -/
theorem alike_readPreset (text : Value) :
    Alike SameAnswers (readPreset text) (readPreset text) := by
  refine (Session.alike_parse text).attempt.bind fun outcome => ?_
  split
  · exact alike_pure _
  · exact alike_pure _
  · exact alike_throw _

/-- `present` ends alike. -/
theorem alike_present (options : Options) (p : Preset) :
    Alike SameAnswers (present options p) (present options p) := by
  refine (Session.alike_note _ _ _).bind fun _ => ?_
  split
  · refine (Session.alike_compile p).bind fun arguments => ?_
    refine (alike_say sameAnswers_print _).bind fun _ => ?_
    refine (alike_say sameAnswers_print _).bind fun _ => ?_
    exact alike_pure 0
  · split
    · exact alike_misused _
    · refine (Session.alike_build p _ _ _).bind fun command => ?_
      refine (alike_ofExcept _).bind fun words => ?_
      refine (alike_say sameAnswers_print _).bind fun _ => ?_
      exact alike_pure 0

/-- **`answer` ends alike** in sessions with `SameAnswers`. -/
theorem alike_answer (options : Options) : Alike SameAnswers (answer options) (answer options) := by
  rw [answer]
  split
  · exact (alike_each (alike_say sameAnswers_print) Catalog.lines).bind fun _ => alike_pure 0
  · refine alike_get_bind fun s t h => ?_
    have htext : options.presetText s.config = options.presetText t.config := by
      simp only [Options.presetText, h.preset]
    rw [htext]
    refine ((alike_readPreset _).bind fun outcome => ?_) s t h
    split
    · exact alike_refuse _ _
    · exact alike_present options _

/-! ### Two runs side by side -/

/-- `loadConfig` turns what makes a file invalid into its result, and any other fault remains one.
-/
theorem on_loadConfig (path : Value) (s : Session) :
    (loadConfig path).on s =
      match Document.entriesAt s.files path with
      | .error fault =>
        (if fault.kind.isInvalidData then .ok (some fault) else .error fault,
          { s with config := s.config.putAll (Config.ofEnvironment s.environment).settings })
      | .ok entries =>
        (.ok none,
          { s with config :=
              (s.config.putAll (Config.ofEnvironment s.environment).settings).putAll entries }) := by
  rw [loadConfig, Action.on_bind, Action.on_attempt, Session.on_load]
  cases Document.entriesAt s.files path with
  | ok entries => rfl
  | error fault =>
      dsimp only
      split <;> rfl

variable {s t : Session}

/-- `loadConfig` where environments and files agree but for logging: the files are both loaded, both
invalid, or at fault in the same way, and what answers are made of is the same. -/
theorem loadConfig_of_agree {path : Value} (henv : EnvironmentsAgree s.environment t.environment)
    (hfiles : Document.AgreeAt s.files t.files path) (houtput : s.output = t.output) :
    ((loadConfig path).on s).1.map Option.isSome = ((loadConfig path).on t).1.map Option.isSome ∧
      SameAnswers ((loadConfig path).on s).2 ((loadConfig path).on t).2 := by
  have hsetting (setting : Setting) (h : setting ∉ Setting.forLogging) :
      (s.config.putAll (Config.ofEnvironment s.environment).settings).get setting =
        (t.config.putAll (Config.ofEnvironment t.environment).settings).get setting := by
    rw [Config.get_putAll_settings, Config.get_putAll_settings, Config.get_ofEnvironment,
      Config.get_ofEnvironment, Config.inEnvironment_of_agree henv h]
  rw [on_loadConfig, on_loadConfig]
  obtain ⟨fault, hs, ht⟩ | ⟨as, bs, hs, ht⟩ | ⟨as, bs, hs, ht, hlast⟩ :=
    Document.entriesAt_of_agree hfiles
  · rw [hs, ht]
    exact ⟨rfl, hsetting .program (by decide), hsetting .preset (by decide), houtput⟩
  · rw [hs, ht]
    exact ⟨rfl, hsetting .program (by decide), hsetting .preset (by decide), houtput⟩
  · rw [hs, ht]
    have hget (setting : Setting) (h : setting ∉ Setting.forLogging) :
        ((s.config.putAll (Config.ofEnvironment s.environment).settings).putAll as).get setting =
          ((t.config.putAll (Config.ofEnvironment t.environment).settings).putAll bs).get
            setting := by
      rw [Session.get_putAll_putAll, Session.get_putAll_putAll, hlast setting h,
        Config.inEnvironment_of_agree henv h]
    exact ⟨rfl, hget .program (by decide), hget .preset (by decide), houtput⟩

/-- `setUp` works on the log only. -/
theorem keeps_setUp (options : Options) : Action.Keeps (SameButLog s) (setUp options) :=
  Session.keeps_reload.bind fun _ => Action.keeps_get.bind fun _ => Session.keeps_setLevel _

/-- `carryOut` ends alike with options that differ at most in the level. -/
theorem carryOut_of_agree {a b : Options} (hoptions : a.withoutLevel = b.withoutLevel)
    (henv : EnvironmentsAgree s.environment t.environment)
    (hfiles : Document.AgreeAt s.files t.files a.config) (houtput : s.output = t.output)
    (hs : ∀ loaded, (loadConfig a.config).on s = (.ok none, loaded) →
      ((setUp a).on loaded).1 = .ok ())
    (ht : ∀ loaded, (loadConfig b.config).on t = (.ok none, loaded) →
      ((setUp b).on loaded).1 = .ok ()) :
    ((carryOut a).on s).1 = ((carryOut b).on t).1 ∧
      ((carryOut a).on s).2.output = ((carryOut b).on t).2.output := by
  have hconfig : b.config = a.config := Options.config_of_withoutLevel hoptions.symm
  have hanswer : answer b = answer a := by
    rw [← answer_withoutLevel b, ← hoptions, answer_withoutLevel]
  obtain ⟨hresult, hsame⟩ := loadConfig_of_agree henv hfiles houtput
  rw [hconfig] at ht
  rw [carryOut_eq, carryOut_eq, hconfig, Action.on_bind, Action.on_bind, hanswer]
  cases hload : (loadConfig a.config).on s with
  | mk outcome loaded =>
      cases hload' : (loadConfig a.config).on t with
      | mk outcome' loaded' =>
          rw [hload, hload'] at hresult hsame
          match outcome, outcome', hresult with
          | .error fault, .error _, rfl => exact ⟨rfl, hsame.output⟩
          | .ok (some _), .ok (some _), _ =>
              obtain ⟨hstatus, hafter⟩ := alike_refuse _ _ loaded loaded' hsame
              exact ⟨hstatus, hafter.output⟩
          | .ok none, .ok none, _ =>
              have hready := hsame.of_sameButLog (keeps_setUp a loaded (SameButLog.refl loaded))
                (keeps_setUp b loaded' (SameButLog.refl loaded'))
              dsimp only
              rw [on_bind_of_ok (hs loaded hload), on_bind_of_ok (ht loaded' hload')]
              obtain ⟨hstatus, hafter⟩ := alike_answer a _ _ hready
              exact ⟨hstatus, hafter.output⟩

/-- `terminalWidth` is not about logging. -/
theorem terminalWidth_of_agree {e f : Entries Text Text} (h : EnvironmentsAgree e f) :
    terminalWidth e = terminalWidth f := by
  rw [terminalWidth, terminalWidth, h (.ofString widthVariable) (by decide)]

/-- `run` ends alike with command lines that stop for one reason. The width shows in the help text.
-/
theorem run_of_stop {arguments arguments' : List String} {stop : Stop}
    (hparse : Options.parse arguments = .error stop)
    (hparse' : Options.parse arguments' = .error stop)
    (henv : EnvironmentsAgree s.environment t.environment) (houtput : s.output = t.output) :
    ((run arguments).on s).1 = ((run arguments').on t).1 ∧
      ((run arguments).on s).2.output = ((run arguments').on t).2.output := by
  rw [run, run, hparse, hparse']
  cases stop with
  | help =>
      have hprint (s t : Session) (text : String) (h : s.output = t.output) :
          (s.print text).output = (t.print text).output := congrArg (· ++ text) h
      dsimp only
      rw [Action.on_bind, Action.on_bind, on_width, on_width, terminalWidth_of_agree henv]
      dsimp only
      generalize help (terminalWidth t.environment) = lines
      exact ((alike_each (alike_say hprint) lines).bind fun _ => alike_pure 0) s t houtput
  | misuse m =>
      obtain ⟨text, hmisused⟩ := exists_on_misused m s
      obtain ⟨text', hmisused'⟩ := exists_on_misused m t
      dsimp only
      rw [hmisused, hmisused']
      exact ⟨rfl, houtput⟩

/-- The report of `Step.run` has the end of the run and all that it printed. -/
theorem report_step_run (s : Session) (arguments : List String) :
    (s.step (.run arguments)).1.outcome =
        ((run arguments).on { s with output := "", errors := "" }).1.map .exit ∧
      (s.step (.run arguments)).1.output =
        ((run arguments).on { s with output := "", errors := "" }).2.output := by
  rw [Session.step, Session.perform, Action.on_bind]
  cases (run arguments).on { s with output := "", errors := "" } with
  | mk outcome after => cases outcome <;> exact ⟨rfl, rfl⟩

/-- **Logging does not show in what a run answers.** Two runs in any two sessions, each perhaps with
a level chosen in front of its command line, end in the same way and print the same, if environments
and configuration files agree but for logging and neither run stops while its loggers are set up. -/
theorem run_independent_of_logging {front front' arguments : List String}
    (hfront : IsLevelChoice front) (hfront' : IsLevelChoice front')
    (henv : EnvironmentsAgree s.environment t.environment)
    (hfiles : ∀ options, Options.parse arguments = .ok options →
      Document.AgreeAt s.files t.files options.config)
    (hs : SetsUpLogging (front ++ arguments) s) (ht : SetsUpLogging (front' ++ arguments) t) :
    (s.step (.run (front ++ arguments))).1.outcome =
        (t.step (.run (front' ++ arguments))).1.outcome ∧
      (s.step (.run (front ++ arguments))).1.output =
        (t.step (.run (front' ++ arguments))).1.output := by
  obtain ⟨houtcome, houtput⟩ := report_step_run s (front ++ arguments)
  obtain ⟨houtcome', houtput'⟩ := report_step_run t (front' ++ arguments)
  rw [houtcome, houtput, houtcome', houtput']
  let start : Session := { s with output := "", errors := "" }
  let start' : Session := { t with output := "", errors := "" }
  -- the two command lines stop for one reason, or give options that differ at most in the level
  have hboth := (Options.parse_sameButLevel hfront arguments).trans
    (Options.parse_sameButLevel hfront' arguments).symm
  suffices h : ((run (front ++ arguments)).on start).1 =
        ((run (front' ++ arguments)).on start').1 ∧
      ((run (front ++ arguments)).on start).2.output =
        ((run (front' ++ arguments)).on start').2.output from ⟨congrArg (Except.map _) h.1, h.2⟩
  obtain ⟨stop, hparse, hparse'⟩ | ⟨a, b, hparse, hparse', hab⟩ := hboth
  · exact run_of_stop (s := start) (t := start') hparse hparse' henv rfl
  · obtain ⟨o, ho, hao⟩ := Options.exists_parse_of_isLevelChoice hfront hparse
    have hconfig : Document.AgreeAt s.files t.files a.config :=
      Options.config_of_withoutLevel hao ▸ hfiles o ho
    rw [run, run, hparse, hparse']
    exact carryOut_of_agree (s := start) (t := start') hab henv hconfig rfl
      (fun loaded hload => hs a loaded hparse hload) fun loaded hload => ht b loaded hparse' hload

/-- Two files with different levels, one of them with a log file; an environment with a level, and a
level in front of a command line; and one session in which settings and loggers have been changed
before. -/
theorem run_independent_of_logging_of_levels :
    let written (entries : List (Text × Value)) : Files :=
      Files.place ⟨[], [], []⟩ "c.json" (Text.Utf8.encode (Value.object entries).write)
    let s : Session :=
      Session.fresh (written [("preset", .text "av1"), ("log_level", .text "DEBUG")]) ""
    let t : Session :=
      { Session.fresh (written [("log_file", .text "run.log"), ("preset", .text "av1")]) "" with
        environment := [("FP_LOG_LEVEL", .ofString "warn")]
        config := ({} : Config).put .preset (.text "h264")
        registry := {} }
    (s.step (.run ["--config=c.json"])).1.outcome =
        (t.step (.run ["--log-level", "ERROR", "--config=c.json"])).1.outcome ∧
      (s.step (.run ["--config=c.json"])).1.output =
        (t.step (.run ["--log-level", "ERROR", "--config=c.json"])).1.output := by
  intro written s t
  have hread (bytes : List UInt8) :
      (Files.place ⟨[], [], []⟩ "c.json" bytes).read "c.json" = .ok bytes := rfl
  have hplain (name text name' text' : String) (h : Text.ofString name ≠ Text.ofString name') :
      (Value.object [(.ofString name, .text (.ofString text)),
        (.ofString name', .text (.ofString text'))]).IsPlain Value.maxDepth := by
    refine .object (by simpa using h) ?_ ?_
    · simp [Text.hasNoHalf_ofString]
    · simp [Value.IsPlain.text, Text.hasNoHalf_ofString]
  have hobject : Document.objectAt? s.files "c.json" = some
      [(.ofString "preset", .text (.ofString "av1")),
        (.ofString "log_level", .text (.ofString "DEBUG"))] :=
    Document.objectAt?_of_write (hplain _ _ _ _ (by decide)) (hread _)
  have hobject' : Document.objectAt? t.files "c.json" = some
      [(.ofString "log_file", .text (.ofString "run.log")),
        (.ofString "preset", .text (.ofString "av1"))] :=
    Document.objectAt?_of_write (hplain _ _ _ _ (by decide)) (hread _)
  have hparse : Options.parse ["--config=c.json"] = .ok { config := .text "c.json" } := rfl
  have hparse' : Options.parse ["--log-level", "ERROR", "--config=c.json"] =
      .ok { config := .text "c.json", logLevel := .text "ERROR" } := by
    rw [Options.parse_level_cons (by decide)]
    rfl
  have henv : EnvironmentsAgree s.environment t.environment := by
    intro name hname
    have hne : Text.ofString "FP_LOG_LEVEL" ≠ name := fun heq => hname (heq ▸ by decide)
    show none = Entries.get? name [(.ofString "FP_LOG_LEVEL", _)]
    rw [Entries.get?, if_neg hne]
    rfl
  have hfiles : ∀ options, Options.parse ["--config=c.json"] = .ok options →
      Document.AgreeAt s.files t.files options.config := by
    intro options hoptions
    rw [hparse] at hoptions
    obtain rfl := Except.ok.inj hoptions
    refine .inr ⟨_, _, _, rfl, hobject, hobject', ?_⟩
    intro name hname
    have hlevel : Text.ofString "log_level" ≠ name := fun heq => hname (heq ▸ by decide)
    have hfile : Text.ofString "log_file" ≠ name := fun heq => hname (heq ▸ by decide)
    simp only [Entries.get?, if_neg hlevel, if_neg hfile]
  have hs : SetsUpLogging ([] ++ ["--config=c.json"]) s :=
    setsUpLogging_of_isOk hparse (by decide +kernel)
  have ht : SetsUpLogging (["--log-level", "ERROR"] ++ ["--config=c.json"]) t :=
    setsUpLogging_of_isOk hparse' (by decide +kernel)
  have hfront : IsLevelChoice [] := .inl rfl
  have hfront' : IsLevelChoice ["--log-level", "ERROR"] := .inr ⟨"ERROR", by decide, rfl⟩
  have hruns := run_independent_of_logging hfront hfront' henv hfiles hs ht
  simpa only [List.nil_append, List.cons_append] using hruns

end Transcode.CommandLine
