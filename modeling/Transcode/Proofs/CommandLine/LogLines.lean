import Transcode.Proofs.CommandLine.Independence
import Transcode.Proofs.Session.LogLines

/-!
# Log lines of a run

No preset forges a log line. Whatever signs a text holds, every record that has to do with it shows
it between quotes and is printable, so each handler that takes the record writes one line. That
holds of reading a preset, of compiling one, and of a whole run of the program, at any levels and
with any handlers.

What a run logs comes between two parts that log nothing: loading the configuration and setting up
the loggers before, answers and complaints behind.

## Main definitions

* `Says`, `Prints` — something is printed, or complained of, and nothing else;
* `Options.records`, `runRecords` — the records of a run.

## Main results

* `prints_present`, `on_present_of_lonePath` — the records of showing a preset, then what is said;
* `says_present`, `says_answer` — the same for any paths, and for a whole answer;
* `keeps_quiet_loadConfig`, `keeps_quiet_setUp` — nothing is written before;
* `exists_ready_of_run` — a whole run;
* `presets_forge_no_line` — its records come out as lines.
-/

namespace Transcode

open Transcode.Action (Keeps keeps_pure keeps_throw keeps_modify keeps_get keeps_ofExcept keeps_each)
open Log (Record)
open Session (Quiet)

namespace CommandLine

variable {s s₁ : Session}

/-! ### Answers and complaints -/

/-- Between two sessions something is printed, or complained of, and nothing else happens. -/
def Says (s after : Session) : Prop :=
  ∃ shown complained, after = (s.print shown).printError complained

theorem Says.refl (s : Session) : Says s s := by
  refine ⟨"", "", ?_⟩
  rw [Session.print, Session.printError, String.append_empty, String.append_empty]

/-- `Session.print` says more. -/
theorem Says.print (h : Says s s₁) (text : String) : Says s (s₁.print text) := by
  obtain ⟨shown, complained, rfl⟩ := h
  refine ⟨shown ++ text, complained, ?_⟩
  simp only [Session.print, Session.printError, String.append_assoc]

/-- `Session.printError` says more. -/
theorem Says.printError (h : Says s s₁) (text : String) : Says s (s₁.printError text) := by
  obtain ⟨shown, complained, rfl⟩ := h
  refine ⟨shown, complained ++ text, ?_⟩
  simp only [Session.print, Session.printError, String.append_assoc]

theorem keeps_say (line : String) : Keeps (Says s) (say line) :=
  keeps_modify fun _ h => h.print (line ++ "\n")

theorem keeps_misused (m : Misuse) : Keeps (Says s) (misused m) := by
  intro s₁ h
  obtain ⟨text, hmisused⟩ := exists_on_misused m s₁
  rw [hmisused]
  exact h.printError text

/-- Between two sessions something is printed, and nothing else happens. -/
def Prints (s after : Session) : Prop :=
  ∃ shown, after = s.print shown

theorem Prints.refl (s : Session) : Prints s s :=
  ⟨"", by rw [Session.print, String.append_empty]⟩

/-- `Says` holds where `Prints` does. -/
theorem Prints.toSays (h : Prints s s₁) : Says s s₁ := by
  obtain ⟨shown, rfl⟩ := h
  exact (Says.refl s).print shown

theorem keeps_prints_say (line : String) : Keeps (Prints s) (say line) := by
  refine keeps_modify fun s₁ h => ?_
  obtain ⟨shown, rfl⟩ := h
  exact ⟨shown ++ (line ++ "\n"), by simp only [Session.print, String.append_assoc]⟩

/-- After an action, what is done with its result by `>>=` keeps to a relation that holds where
nothing is done. -/
theorem on_bind_of_refl {R : Session → Session → Prop} (hrefl : ∀ s, R s s) {α β : Type}
    {a : Action α} {f : α → Action β} (h : ∀ x, Keeps (R (a.on s).2) (f x)) :
    R (a.on s).2 ((a >>= f).on s).2 := by
  rw [Action.on_bind]
  cases ha : a.on s with
  | mk outcome after =>
      rw [ha] at h
      cases outcome with
      | error fault => exact hrefl after
      | ok x => exact h x after (hrefl after)

/-! ### The records of a run -/

/-- The record of `present`, which is on its note. -/
def presentRecord (p : Preset) : Record :=
  ⟨Log.Level.info, "ffmpeg_preset.cli", presentNote p⟩

/-- The records of `present`. With one path only, nothing is compiled. -/
def Options.presentRecords (options : Options) (p : Preset) : List Record :=
  presentRecord p ::
    if options.input.isEmpty = options.output.isEmpty then p.compileRecords else []

/-- The records of `answer`, which is a list or has to do with a preset. -/
def Options.records (options : Options) (config : Config) : List Record :=
  if options.listPresets then []
  else
    match options.presetText config with
    | .null => options.presentRecords Preset.default
    | .text text =>
      match Preset.parse text with
      | .ok p => Preset.parseRecords text ++ options.presentRecords p
      | .error _ => []
    | _ => []

/-- The records of `run`: those of the answer, if the run comes to that. -/
def runRecords (arguments : List String) (s : Session) : List Record :=
  match Options.parse arguments with
  | .error _ => []
  | .ok options =>
    match (loadConfig options.config).on s with
    | (.ok none, loaded) =>
      match (setUp options).on loaded with
      | (.ok (), ready) => options.records ready.config
      | (.error _, _) => []
    | _ => []

/-- `present` with both paths or none logs its records, and then prints something at most. -/
theorem prints_present {options : Options} (h : options.input.isEmpty = options.output.isEmpty)
    (p : Preset) (s : Session) :
    Prints (s.logAll (options.presentRecords p)) ((present options p).on s).2 := by
  let noted := Session.log (presentRecord p) s
  have hcompiled : noted.logAll p.compileRecords = ((Session.compile p).on noted).2 :=
    (Session.after_compile p noted).symm
  rw [Options.presentRecords, if_pos h, present, Action.on_bind, Session.on_note]
  rw [← h]
  cases options.input.isEmpty
  · show Prints (noted.logAll p.compileRecords)
      ((Session.build (.preset p) _ _ _ >>= fun command => _).on noted).2
    rw [hcompiled, Session.build, bind_assoc]
    refine on_bind_of_refl Prints.refl fun arguments => keeps_get.bind fun _ => ?_
    refine (keeps_ofExcept _).bind fun words => (keeps_prints_say _).bind fun _ => keeps_pure 0
  · show Prints (noted.logAll p.compileRecords)
      ((Session.compile p >>= fun arguments => _).on noted).2
    rw [hcompiled]
    exact on_bind_of_refl Prints.refl fun arguments => (keeps_prints_say _).bind fun _ =>
      (keeps_prints_say _).bind fun _ => keeps_pure 0

/-- `present` with one path only logs its record, and then tells of the misuse. -/
theorem on_present_of_lonePath {options : Options}
    (h : options.input.isEmpty ≠ options.output.isEmpty) (p : Preset) (s : Session) :
    (present options p).on s =
      (.ok 2, (s.logAll (options.presentRecords p)).printError
        (Misuse.lonePath.told s.environment)) := by
  have hnoted := Session.sameButLog_log (presentRecord p) s
  have hlone : (present options p).on s = (misused .lonePath).on (s.log (presentRecord p)) := by
    rw [present, Action.on_bind, Session.on_note]
    cases hinput : options.input.isEmpty <;> cases houtput : options.output.isEmpty
    · exact absurd (hinput.trans houtput.symm) h
    · rfl
    · rfl
    · exact absurd (hinput.trans houtput.symm) h
  rw [hlone, on_misused, hnoted.environment, Options.presentRecords, if_neg h]
  rfl

/-- `present` in any case logs its records, and then says something. -/
theorem says_present (options : Options) (p : Preset) (s : Session) :
    Says (s.logAll (options.presentRecords p)) ((present options p).on s).2 := by
  by_cases h : options.input.isEmpty = options.output.isEmpty
  · exact (prints_present h p s).toSays
  · rw [on_present_of_lonePath h]
    exact (Says.refl _).printError _

/-- `readPreset` does what `Session.parse` of the text does. -/
theorem on_readPreset_text (text : Text) (s : Session) :
    (readPreset (.text text)).on s =
      (.ok (Preset.parse text), s.logAll (Preset.parseRecords text)) := by
  rw [readPreset, Action.on_bind, Action.on_attempt, Session.on_parse_text, Preset.parseRecords]
  cases Preset.parse text <;> rfl

/-- `answer` logs the records of the options, and then says something. -/
theorem says_answer (options : Options) (s : Session) :
    Says (s.logAll (options.records s.config)) ((answer options).on s).2 := by
  rw [answer, Options.records]
  split
  next =>
    exact ((keeps_each fun line _ => keeps_say line).bind fun _ => keeps_pure 0) s (Says.refl s)
  next =>
    rw [Action.on_bind, Action.on_get]
    dsimp only
    rw [Action.on_bind]
    split
    next htext =>
      rw [htext]
      exact says_present options Preset.default s
    next text htext =>
      rw [htext, on_readPreset_text]
      dsimp only
      cases hparse : Preset.parse text with
      | error e =>
          rw [Preset.parseRecords, hparse]
          exact (Says.refl s).printError _
      | ok p =>
          have hpresent := says_present options p (s.logAll (Preset.parseRecords text))
          rwa [← Session.logAll_append] at hpresent
    next hnull htext =>
      -- a value that is no text is not read
      cases hvalue : options.presetText s.config with
      | null => exact absurd hvalue hnull
      | text t => exact absurd hvalue (htext t)
      | _ => exact Says.refl s

/-! ### Before the answer -/

/-- `loadConfig` writes nothing. -/
theorem keeps_quiet_loadConfig (path : Value) : Keeps (Quiet s) (loadConfig path) := by
  have hload : Keeps (Quiet s) (Session.load path) := by
    intro s₁ h
    rw [Session.on_load]
    cases Document.entriesAt s₁.files path <;> exact Quiet.setConfig s₁ _ h
  refine hload.attempt.bind fun outcome => ?_
  split
  · exact keeps_pure none
  · split
    · exact keeps_pure _
    · exact keeps_throw _

/-- `setUp` writes nothing. -/
theorem keeps_quiet_setUp (options : Options) : Keeps (Quiet s) (setUp options) :=
  (Session.keeps_reload_of Quiet.setRegistry Quiet.openFile).bind fun _ =>
    keeps_get.bind fun _ => Session.keeps_setLevel_of Quiet.setRegistry _

/-- **`run` logs its records** after a part in which nothing is written, and before one in which
something is said. -/
theorem exists_ready_of_run (arguments : List String) (s : Session) :
    ∃ ready, Quiet s ready ∧
      Says (ready.logAll (runRecords arguments s)) ((run arguments).on s).2 := by
  rw [run, runRecords]
  cases Options.parse arguments with
  | error stop =>
      refine ⟨s, Quiet.refl s, ?_⟩
      cases stop with
      | help =>
          have hwidth : ∀ f : Nat → Action Nat, (width >>= f).on s = (f _).on s := fun f => by
            rw [Action.on_bind, on_width]
          rw [hwidth]
          exact ((keeps_each fun line _ => keeps_say line).bind fun _ => keeps_pure 0) s (Says.refl s)
      | misuse m => exact keeps_misused m s (Says.refl s)
  | ok options =>
      dsimp only
      rw [carryOut_eq, Action.on_bind]
      have hload := keeps_quiet_loadConfig options.config s (Quiet.refl s)
      cases hloaded : (loadConfig options.config).on s with
      | mk outcome loaded =>
          rw [hloaded] at hload
          cases outcome with
          | error fault => exact ⟨loaded, hload, Says.refl loaded⟩
          | ok invalid =>
              cases invalid with
              | some fault => exact ⟨loaded, hload, (Says.refl loaded).printError _⟩
              | none =>
                  dsimp only
                  rw [Action.on_bind]
                  have hready := keeps_quiet_setUp options loaded hload
                  cases hsetUp : (setUp options).on loaded with
                  | mk outcome ready =>
                      rw [hsetUp] at hready
                      refine ⟨ready, hready, ?_⟩
                      cases outcome with
                      | error fault => exact Says.refl ready
                      | ok value => exact says_answer options ready

/-- The program as a whole writes to a logger of its own. -/
theorem cli_mem_programLoggers : Text.ofString "ffmpeg_preset.cli" ∈ Session.programLoggers := by
  decide

/-- `Options.presentRecords` are printable. -/
theorem isPrintable_of_mem_presentRecords {options : Options} {p : Preset} {record : Record}
    (h : record ∈ options.presentRecords p) : record.IsPrintable := by
  rw [Options.presentRecords, List.mem_cons] at h
  rcases h with rfl | h
  · have hlabel : Text.IsPrintable "使用预设: " := by decide +kernel
    exact .of_note cli_mem_programLoggers (hlabel.append p.isPrintable_shown)
  · split at h
    · exact Preset.isPrintable_of_mem_compileRecords h
    · exact absurd h List.not_mem_nil

/-- So are `Options.records`. -/
theorem isPrintable_of_mem_records {options : Options} {config : Config} {record : Record}
    (h : record ∈ options.records config) : record.IsPrintable := by
  rw [Options.records] at h
  split at h
  next => exact absurd h List.not_mem_nil
  next =>
    split at h
    next => exact isPrintable_of_mem_presentRecords h
    next =>
      split at h
      next =>
        rcases List.mem_append.mp h with h | h
        · exact Preset.isPrintable_of_mem_parseRecords h
        · exact isPrintable_of_mem_presentRecords h
      next => exact absurd h List.not_mem_nil
    next => exact absurd h List.not_mem_nil

/-- So are `runRecords`. -/
theorem isPrintable_of_mem_runRecords {arguments : List String} {record : Record}
    (h : record ∈ runRecords arguments s) : record.IsPrintable := by
  rw [runRecords] at h
  split at h
  next => exact absurd h List.not_mem_nil
  next =>
    split at h
    next =>
      split at h
      next => exact isPrintable_of_mem_records h
      next => exact absurd h List.not_mem_nil
    next => exact absurd h List.not_mem_nil

/-- **No preset forges a line of the log.** In any session whose time is printable, with whatever
levels and handlers: what `Session.parse` of a text does is to log its records, what
`Session.compile` does is to log its records, and what `run` does is to log its records after a part
in which nothing is written and before answers and complaints. All these records come out as lines:
their messages are printable, and there is one line for each time that one of them is taken. -/
theorem presets_forge_no_line (htime : Text.IsPrintable s.time) :
    (∀ text, ((Session.parse (.text text)).on s).2 = s.logAll (Preset.parseRecords text) ∧
      s.LogsLines (Preset.parseRecords text)) ∧
    (∀ p : Preset, ((Session.compile p).on s).2 = s.logAll p.compileRecords ∧
      s.LogsLines p.compileRecords) ∧
    ∀ arguments, ∃ ready, Quiet s ready ∧ ready.LogsLines (runRecords arguments s) ∧
      Says (ready.logAll (runRecords arguments s)) ((run arguments).on s).2 := by
  refine ⟨fun text => ⟨Session.after_parse_text text s, ?_⟩,
    fun p => ⟨Session.after_compile p s, ?_⟩, fun arguments => ?_⟩
  · exact Session.logsLines htime fun record => Preset.isPrintable_of_mem_parseRecords
  · exact Session.logsLines htime fun record => Preset.isPrintable_of_mem_compileRecords
  · obtain ⟨ready, hquiet, hsays⟩ := exists_ready_of_run arguments s
    have hready : Text.IsPrintable ready.time := hquiet.time ▸ htime
    exact ⟨ready, hquiet,
      Session.logsLines hready fun record => isPrintable_of_mem_runRecords, hsays⟩

/-- Line ends, quotation marks of both kinds and a half, in arguments whose quotation is not closed:
one line for reading them, and one for the warning. -/
theorem presets_forge_no_line_of_breaks :
    let s := ((Session.fresh ⟨[], [], []⟩ "12:00").run [.setLevel (.text "debug")]).2
    let text : Text := Text.ofString "\"a'\r\n\u2028" ++ [.half 0]
    let read := "12:00 | DEBUG    | ffmpeg_preset.preset.parser | 作为自定义参数处理: " ++
      "'\"a\\'\\r\\n\\u2028\\ud800'\n"
    let warned := "12:00 | WARNING  | ffmpeg_preset.preset.compiler | 无法解析自定义参数 " ++
      "'\"a\\'\\r\\n\\u2028\\ud800': No closing quotation\n"
    Text.IsPrintable s.time ∧
      ((Session.parse (.text text)).on s).2.received .console =
        s.received .console ++ Text.Utf8.encode read.toList ∧
      Text.countLineEnds read = 1 ∧
      ((Session.compile (.custom (some text))).on s).2.received .console =
        s.received .console ++ Text.Utf8.encode warned.toList ∧
      Text.countLineEnds warned = 1 := by
  intro s text read warned
  have htime : Text.IsPrintable s.time := by decide +kernel
  have hread : String.join (Session.written .console s.time
      (s.acceptances (Preset.parseRecords text))) = read := by decide +kernel
  have hwarned : String.join (Session.written .console s.time
      (s.acceptances (Preset.compileRecords (.custom (some text))))) = warned := by decide +kernel
  obtain ⟨hparse, hcompile, -⟩ := presets_forge_no_line htime
  obtain ⟨hparsed, hlines⟩ := hparse text
  obtain ⟨hcompiled, hlines'⟩ := hcompile (.custom (some text))
  refine ⟨htime, ?_, ?_, ?_, ?_⟩
  · rw [hparsed, hlines.received, hread]
  · rw [← hread, hlines.count]
    decide +kernel
  · rw [hcompiled, hlines'.received, hwarned]
  · rw [← hwarned, hlines'.count]
    decide +kernel

end CommandLine

end Transcode
