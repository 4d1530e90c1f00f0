import Transcode.Proofs.CommandLine.Outcomes
import Transcode.Proofs.Session.EffectiveLevel

/-!
# What a run logs

One number decides on what a run logs: the level of its command line or, without one, that of the
configuration, where no level at all counts as the one of warnings. There are three lines at most,
each written once. The reader tells of a text that it has read, unless that was left to the standard
preset; the program tells of the preset that it shows; and the compiler warns of custom arguments
that it cannot split, if the run comes to compiling them. The same lines go to standard error and to
the log file, and no other file gets any.

That the handlers are set up twice, for the level of the configuration and then for the one that
counts, does not show.

## Main definitions

* `Options.loggedLines` — the lines of a run.

## Main results

* `exists_writesAt_of_load` — from the command line to the answer, by way of the loggers;
* `exists_answer_of_read` — the records of an answer, and what is said behind them;
* `run_logs_by_level` — a whole run.
-/

namespace Transcode

open Log (Record Sink)
open Text.Utf8 (encode)

namespace Session

variable {s : Session} {records : List Record} {level : Nat} {sinks : List Sink}

/-- What records of the program add to a place, once `WritesAt` holds of its loggers. -/
theorem received_logAll_of_writesAt (hnodup : sinks.Nodup) (hne : sinks ≠ [])
    (hwrites : ∀ logger ∈ programLoggers, s.registry.WritesAt level sinks logger)
    (hrecords : ∀ record ∈ records, IsProgramRecord record ∧ record.level ≠ Log.Level.unset)
    (sink : Sink) :
    (logAll records s).received sink =
      s.received sink ++
        if sink ∈ sinks then
          encode (String.join (records.flatMap (Record.linesAt level s.time))).toList
        else [] := by
  have hboth (record : Record) (hmem : record ∈ records) :=
    And.intro (hwrites _ (hrecords record hmem).1.logger) (hrecords record hmem).2
  have hlines (record : Record) (hmem : record ∈ records) : (record.line s.time).HasNoHalf :=
    (hrecords record hmem).1.hasNoHalf_line s.time
  rw [received_logAll hlines, written_acceptances hnodup hne hboth]
  split <;> rfl

/-- Standard error is what `received` has of the console. -/
theorem errors_eq_of_received {text : String}
    (h : s.received .console = encode text.toList) : s.errors = text := by
  have hdecoded := congrArg Text.Utf8.decode h
  rw [received, Text.Utf8.decode_encode, Text.Utf8.decode_encode, Except.ok.injEq] at hdecoded
  exact String.toList_inj.mp hdecoded

end Session

namespace CommandLine

variable {s : Session} {arguments : List String} {options : Options} {config : Config}
  {p : Preset}

/-! ### The lines of a run -/

/-- The line on a text that has been read as a preset, which is its `parseNote`. `Value.null`, which
is left to the standard preset, is not read. -/
def readLines (level : Nat) (time : String) (p : Preset) : Value → List String
  | .text text =>
    Record.linesAt level time
      ⟨Log.Level.debug, "ffmpeg_preset.preset.parser", p.parseNote text⟩
  | _ => []

/-- The line on custom arguments that cannot be split, which is `unsplitNote`. -/
def unsplitLines (level : Nat) (time : String) : Preset → List String
  | .custom (some text) =>
    match Shell.Words.split text with
    | .error fault =>
      Record.linesAt level time
        ⟨Log.Level.warning, "ffmpeg_preset.preset.compiler", unsplitNote text fault⟩
    | .ok _ => []
  | _ => []

/-- **The lines of a run** that reads what is asked for as a preset, with the loggers set to a
level: `readLines`, the one on showing it, and, unless one path only stops the run, `unsplitLines`.
-/
def Options.loggedLines (options : Options) (level : Nat) (asked : Value) (p : Preset)
    (time : String) : List String :=
  readLines level time p asked ++ Record.linesAt level time (presentRecord p) ++
    if options.input.isEmpty = options.output.isEmpty then unsplitLines level time p else []

/-- The record of reading what is asked for, if it is a text. -/
def readRecords (p : Preset) : Value → List Record
  | .text text => [⟨Log.Level.debug, "ffmpeg_preset.preset.parser", p.parseNote text⟩]
  | _ => []

theorem flatMap_readRecords (level : Nat) (time : String) (p : Preset) (asked : Value) :
    (readRecords p asked).flatMap (Record.linesAt level time) = readLines level time p asked := by
  cases asked with
  | text text => exact List.flatMap_singleton _ _
  | _ => rfl

theorem flatMap_compileRecords (level : Nat) (time : String) (p : Preset) :
    p.compileRecords.flatMap (Record.linesAt level time) = unsplitLines level time p := by
  rw [Preset.compileRecords]
  cases p with
  | predefined codec accelerator quality => cases codec <;> rfl
  | custom arguments =>
      cases arguments with
      | none => rfl
      | some text =>
          rw [Preset.compile, unsplitLines]
          cases Shell.Words.split text with
          | ok words => rfl
          | error fault => exact List.flatMap_singleton _ _

/-- `Options.loggedLines` are those of the records of reading and showing the preset. -/
theorem Options.loggedLines_eq (options : Options) (level : Nat) (asked : Value) (p : Preset)
    (time : String) :
    options.loggedLines level asked p time =
      (readRecords p asked ++ options.presentRecords p).flatMap (Record.linesAt level time) := by
  rw [List.flatMap_append, flatMap_readRecords, presentRecords, List.flatMap_cons, loggedLines,
    List.append_assoc]
  split
  next => rw [flatMap_compileRecords]
  next => rfl

/-- `IsProgramRecord` holds of these records, and each has a level. -/
theorem isProgramRecord_of_mem_records {asked : Value} {record : Record}
    (h : record ∈ readRecords p asked ++ options.presentRecords p) :
    Session.IsProgramRecord record ∧ record.level ≠ Log.Level.unset := by
  rcases List.mem_append.mp h with hread | hpresent
  · cases asked with
    | text text =>
        obtain rfl := List.mem_singleton.mp hread
        exact ⟨Session.isProgramRecord_note _ Session.parser_mem_programLoggers _,
          show Log.Level.debug ≠ Log.Level.unset by decide⟩
    | _ => exact absurd hread List.not_mem_nil
  · rw [Options.presentRecords, List.mem_cons] at hpresent
    rcases hpresent with rfl | hcompile
    · exact ⟨Session.isProgramRecord_note _ cli_mem_programLoggers _,
        show Log.Level.info ≠ Log.Level.unset by decide⟩
    · split at hcompile
      · refine ⟨(Preset.isPrintable_of_mem_compileRecords hcompile).toIsProgramRecord, ?_⟩
        rw [Preset.compileRecords] at hcompile
        split at hcompile
        next =>
          obtain rfl := List.mem_singleton.mp hcompile
          exact show Log.Level.warning ≠ Log.Level.unset by decide
        next => exact absurd hcompile List.not_mem_nil
      · exact absurd hcompile List.not_mem_nil

/-! ### Answers -/

/-- `Session.parse` reads what is asked for with its record, in any session. -/
theorem on_parse_of_eq_ok {asked : Value} (h : ((Session.parse asked).on s).1 = .ok p)
    (t : Session) : (Session.parse asked).on t = (.ok p, t.logAll (readRecords p asked)) := by
  cases asked with
  | null =>
      obtain rfl := Except.ok.inj h
      rfl
  | text text =>
      rw [Session.on_parse_text, Session.parse_text_eq_ok_iff.mp h]
      rfl
  | _ => cases h

/-- **An `answer`** that shows a preset logs the records of reading and showing it. Then something
is printed, or with one path only `Misuse.lonePath` is reported. -/
theorem exists_answer_of_read (ready : Session) (hlist : options.listPresets = false)
    (hread : ((Session.parse (options.presetText ready.config)).on s).1 = .ok p) :
    ∃ shown, ((answer options).on ready).2 =
      (((ready.logAll (readRecords p (options.presetText ready.config) ++
        options.presentRecords p)).print shown).printError
          (if options.input.isEmpty = options.output.isEmpty then ""
          else Misuse.lonePath.told ready.environment)) := by
  have hparsed := on_parse_of_eq_ok hread ready
  rw [on_answer_of_read hlist hparsed, Session.logAll_append]
  split
  next hpaths =>
    obtain ⟨shown, hshown⟩ := prints_present hpaths p
      (ready.logAll (readRecords p (options.presetText ready.config)))
    refine ⟨shown, ?_⟩
    rw [hshown, Session.printError, String.append_empty]
  next hpaths =>
    refine ⟨"", ?_⟩
    rw [on_present_of_lonePath hpaths, Session.print, String.append_empty,
      (Session.sameButLog_logAll _ ready).environment]

/-! ### Before the answer -/

/-- `setUp` without a fault is `reload` and then `setLevel`, without a fault in either. -/
theorem exists_of_setUp_eq_ok (h : ((setUp options).on s).1 = .ok ()) :
    ∃ mid ready, Session.reload.on s = (.ok (), mid) ∧
      (Session.setLevel (options.logLevel.orElse (s.config.get .logLevel))).on mid =
        (.ok (), ready) ∧
      (setUp options).on s = (.ok (), ready) := by
  have hkeeps := Session.keeps_reload s (Session.SameButLog.refl s)
  cases hreload : Session.reload.on s with
  | mk outcome mid =>
      rw [hreload] at hkeeps
      cases outcome with
      | error fault =>
          rw [setUp, Action.on_bind, hreload] at h
          cases h
      | ok value =>
          have hsetUp : (setUp options).on s =
              (Session.setLevel (options.logLevel.orElse (s.config.get .logLevel))).on mid := by
            rw [setUp, Action.on_bind, hreload, ← hkeeps.config]
            rfl
          rw [hsetUp] at h ⊢
          exact ⟨mid, _, rfl, Prod.ext h rfl, Prod.ext h rfl⟩

/-- From loggers with `IsAtStart`, a run comes to its answer with each of them writing at the level
that counts, to the places that the configuration `CallsFor`. Nothing has been written by then, and
the settings are those that were loaded. -/
theorem exists_writesAt_of_load (hstart : s.IsAtStart)
    (hparse : Options.parse arguments = .ok options)
    (hload : ((Session.load options.config).on s).1 = .ok config)
    (hset : SetsUpLogging arguments s) :
    let loaded : Session := { s with output := "", errors := "", config }
    ∃ ready name level configured sinks,
      (run arguments).on { s with output := "", errors := "" } = (answer options).on ready ∧
      Session.SameButLog loaded ready ∧ Session.Quiet loaded ready ∧
      options.logLevel.orElse (config.get .logLevel) = .text name ∧
      Log.Level.meaning? name.plain = some (.level level) ∧
      Session.CallsFor config s.files configured sinks ∧
      ∀ logger ∈ Session.programLoggers, ready.registry.WritesAt level sinks logger := by
  intro loaded
  obtain ⟨ready, hready, hrun⟩ := exists_setUp_of_load hparse hload hset
  obtain ⟨mid, ready', hreload, hlevel, hready'⟩ :=
    exists_of_setUp_eq_ok (congrArg Prod.fst hready)
  obtain rfl : ready = ready' := congrArg Prod.snd (hready.symm.trans hready')
  have hloaded : loaded.IsAtStart := ⟨hstart.tree, hstart.root, hstart.attached⟩
  obtain ⟨name, level, configured, sinks, hwrites⟩ :=
    Session.exists_writesAt_of_setUp hloaded hreload hlevel
  have hsame := keeps_setUp options loaded (Session.SameButLog.refl loaded)
  have hquiet := keeps_quiet_setUp options loaded (Session.Quiet.refl loaded)
  rw [hready] at hsame hquiet
  exact ⟨ready, name, level, configured, sinks, hrun, hsame, hquiet, hwrites⟩

/-! ### A whole run -/

/-- The session after a run, and what its report has of standard error. -/
theorem step_run_snd (s : Session) (arguments : List String) :
    (s.step (.run arguments)).2 = ((run arguments).on { s with output := "", errors := "" }).2 ∧
      (s.step (.run arguments)).1.errors = (s.step (.run arguments)).2.errors := by
  rw [Session.step, Session.perform, Action.on_bind]
  cases (run arguments).on { s with output := "", errors := "" } with
  | mk outcome after => cases outcome <;> exact ⟨rfl, rfl⟩

/-- **What a run logs is determined by the level that counts.** Start with loggers like those at the
start, let the configuration be loaded and the loggers be set up, and let a preset be read and
shown. Then the level on the command line, or else the one of the configuration, has a name that
stands for a level, and `Options.loggedLines` for that level are all that is logged. They stand on
standard error, where they are followed at most by the report of `Misuse.lonePath`; and they are
what is added to the log file, if there is one, while no other file is added to. -/
theorem run_logs_by_level (hstart : s.IsAtStart) (hparse : Options.parse arguments = .ok options)
    (hlist : options.listPresets = false)
    (hload : ((Session.load options.config).on s).1 = .ok config)
    (hset : SetsUpLogging arguments s)
    (hread : ((Session.parse (options.presetText config)).on s).1 = .ok p) :
    let done := s.step (.run arguments)
    ∃ name level configured sinks,
      options.logLevel.orElse (config.get .logLevel) = .text name ∧
      Log.Level.meaning? name.plain = some (.level level) ∧
      Session.CallsFor config s.files configured sinks ∧
      let lines := options.loggedLines level (options.presetText config) p s.time
      done.1.errors = String.join lines ++
        (if options.input.isEmpty = options.output.isEmpty then ""
        else Misuse.lonePath.told s.environment) ∧
      ∀ location, done.2.received (.file location) = s.received (.file location) ++
        if .file location ∈ sinks then encode (String.join lines).toList else [] := by
  intro done
  obtain ⟨ready, name, level, configured, sinks, hrun, hsame, hquiet, hname, hmeaning, hcalls,
    hwrites⟩ := exists_writesAt_of_load hstart hparse hload hset
  refine ⟨name, level, configured, sinks, hname, hmeaning, hcalls, ?_⟩
  intro lines
  have hconfig : ready.config = config := hsame.config
  obtain ⟨shown, hanswer⟩ := exists_answer_of_read ready hlist (hconfig ▸ hread)
  let records := readRecords p (options.presetText config) ++ options.presentRecords p
  have hlogged (sink : Sink) : (ready.logAll records).received sink =
      ready.received sink ++ if sink ∈ sinks then encode (String.join lines).toList else [] := by
    rw [Session.received_logAll_of_writesAt hcalls.nodup hcalls.ne_nil hwrites
      (fun record => isProgramRecord_of_mem_records), show ready.time = s.time from hsame.time,
      ← Options.loggedLines_eq]
  rw [hconfig, hsame.environment] at hanswer
  obtain ⟨hdone, herrors⟩ := step_run_snd s arguments
  rw [hrun, hanswer] at hdone
  constructor
  · have hconsole : (ready.logAll records).errors = String.join lines := by
      refine Session.errors_eq_of_received ?_
      rw [hlogged, if_pos hcalls.console_mem, hquiet.received]
      rfl
    rw [herrors, hdone, ← hconsole]
    rfl
  · intro location
    show (s.step (.run arguments)).2.received _ = _
    rw [hdone]
    refine (hlogged (.file location)).trans ?_
    rw [hquiet.received]
    rfl

/-- At the start, with no level and a log file in the environment, and arguments whose quotation is
not closed: the warning alone, on standard error and in the file. -/
theorem run_logs_by_level_of_notset :
    let s : Session :=
      { Session.fresh ⟨[], [], []⟩ "12:00" with
        environment := [("FP_LOG_LEVEL", "notset"), ("FP_LOG_FILE", "run.log")] }
    let done := s.step (.run ["--preset=-vf '"])
    let warned := "12:00 | WARNING  | ffmpeg_preset.preset.compiler | 无法解析自定义参数 " ++
      "\"-vf '\": No closing quotation\n"
    done.1.errors = warned ∧ done.2.received (.file ["run.log"]) = encode warned.toList := by
  intro s done warned
  let options : Options := { preset := .text "-vf '" }
  have hparse : Options.parse ["--preset=-vf '"] = .ok options := rfl
  have hstart : s.IsAtStart := Session.isAtStart_fresh _ _ _ _
  have hset := setsUpLogging_of_isOk (s := s) hparse (by decide +kernel)
  let config := s.config.putAll (Config.ofEnvironment s.environment).settings
  have hload : ((Session.load .null).on s).1 = .ok config := rfl
  have hlevel : config.get .logLevel = .text "notset" := by
    rw [Config.get_putAll_settings, Config.get_ofEnvironment]
    rfl
  have hfile : config.get .logFile = .text "run.log" := by
    rw [Config.get_putAll_settings, Config.get_ofEnvironment]
    rfl
  have hread : Preset.parse "-vf '" = .ok (.custom (some "-vf '")) := by decide +kernel
  have hmeaning : Log.Level.meaning? (Text.plain "notset") = some (.level Log.Level.unset) := by
    decide +kernel
  have hwritable : s.files.writable (s.files.absolute "run.log") = .ok ["run.log"] := by
    decide +kernel
  have hlines : options.loggedLines Log.Level.unset (options.presetText config)
      (.custom (some "-vf '")) s.time = [warned] := by decide +kernel
  obtain ⟨name, level, configured, sinks, hname, hnamed, hcalls, herrors, hreceived⟩ :=
    run_logs_by_level hstart hparse rfl hload hset (Session.parse_text_eq_ok_iff.mpr hread)
  obtain rfl : "notset" = name := Value.text.inj (hlevel.symm.trans hname)
  obtain rfl := Log.Level.Meaning.level.inj (Option.some.inj (hmeaning.symm.trans hnamed))
  have hne : ¬(config.get .logFile).isEmpty = true := by
    rw [hfile]
    decide
  obtain ⟨-, rfl⟩ := hcalls.unique (Session.CallsFor.of_file hcalls.level hne hfile hwritable)
  have hjoin : String.join [warned] = warned := by
    rw [String.join_cons, String.join_nil, String.append_empty]
  have hnew : s.received (.file ["run.log"]) = [] := rfl
  constructor
  · rw [herrors, hlines, hjoin]
    exact String.append_empty
  · rw [hreceived, hlines, hjoin, hnew, if_pos (by simp), List.nil_append]

end CommandLine

end Transcode
