import Transcode.Proofs.Log.Decisions
import Transcode.Proofs.Session.Changes
import Transcode.Proofs.Text.Printable
import Transcode.Proofs.Text.Utf8

/-!
# Lines of the log

A record goes to every handler that lets it through, or, if there are no handlers at all, to
standard error if it is a warning or worse. Each of them writes one text. If the message is
printable, and so is the time, that text is one line, so whoever reads the log finds as many lines
as there were records taken.

Which handlers take a record does not hang on the records before it, as these change nothing but
what the loggers have decided.

## Main definitions

* `Log.Taker`, `Session.takers` — what takes a record;
* `Session.logAll`, `Session.acceptances` — several records, and all that take one of them;
* `Session.received` — what there is in one of the places that are written to;
* `Session.Quiet` — a part of a run in which nothing is written;
* `Session.LogsLines` — records that come out as one line for each time one is taken;
* `Preset.parseRecords`, `Preset.compileRecords` — the records of reading and compiling a preset.

## Main results

* `received_log`, `received_logAll` — what one record adds to each place, and what several add;
* `logsLines` — records with printable messages;
* `isPrintable_of_mem_parseRecords`, `isPrintable_of_mem_compileRecords` — such records;
* `after_parse_text`, `after_compile` — that those records are all that happens.
-/

namespace Transcode

open Log (Handler Record Sink)
open Text (IsLine IsPrintable)
open Text.Utf8 (encode)

/-! ### One line -/

namespace Log

/-- `Level.title` is printable, whatever the level. -/
theorem Level.isPrintable_title (level : Nat) : IsPrintable (title level) := by
  have hlevel : IsPrintable "Level " := by decide +kernel
  rw [title]
  split
  · decide +kernel
  split
  · decide +kernel
  split
  · decide +kernel
  split
  · decide +kernel
  split
  · decide +kernel
  split
  · decide +kernel
  · exact hlevel.append (Text.isPrintable_toString level)

/-- `padded` is printable, as blanks are. -/
theorem isPrintable_padded {text : String} (h : IsPrintable text) (width : Nat) :
    IsPrintable (padded width text) := by
  refine h.append (Text.isPrintable_ofList fun c hc => ?_)
  rw [List.eq_of_mem_replicate hc]
  exact Text.isPrintable_space

/-- A record with `IsProgramRecord` whose message is printable. -/
structure Record.IsPrintable (record : Record) : Prop extends Session.IsProgramRecord record where
  printable : Text.IsPrintable record.message.plain

/-- The record of a note that is printable. -/
theorem Record.IsPrintable.of_note {level : Nat} {logger : Text} {message : String}
    (hlogger : logger ∈ Session.programLoggers) (hmessage : Text.IsPrintable message) :
    Record.IsPrintable ⟨level, logger, message⟩ where
  toIsProgramRecord := Session.isProgramRecord_note level hlogger message
  printable := by rwa [Text.plain_ofString]

/-- The characters of `Record.line`. -/
theorem Record.plain_line (record : Record) (time : String) :
    (record.line time).plain =
      time ++ " | " ++ padded 8 (Level.title record.level) ++ " | " ++ record.logger.plain
        ++ " | " ++ record.message.plain ++ "\n" := by
  simp only [Record.line, Text.plain_append, Text.plain_ofString]

/-- What takes a record: a handler, or standard error for want of any handler. -/
inductive Taker where
  | attached (handler : Handler)
  | lastResort
  deriving DecidableEq, Repr

namespace Taker

/-- The `Sink` where it writes. -/
def sink : Taker → Sink
  | .attached handler => handler.sink
  | .lastResort => .console

/-- What it writes: `Record.line`, or for want of a handler the message alone. -/
def line (time : String) (record : Record) : Taker → String
  | .attached _ => (record.line time).plain
  | .lastResort => record.message.plain ++ "\n"

/-- The record is written in a session. -/
def write (record : Record) (s : Session) : Taker → Session
  | .attached handler => s.writeRecord record handler.sink
  | .lastResort => s.printError (record.message.plain ++ "\n")

/-- **It writes one line** if the time and the message are printable. -/
theorem isLine {time : String} (htime : Text.IsPrintable time) {record : Record}
    (h : record.IsPrintable) (taker : Taker) : IsLine (taker.line time record) := by
  have hbar : Text.IsPrintable " | " := by decide +kernel
  have hloggers : ∀ name ∈ Session.programLoggers, Text.IsPrintable name.plain := by
    decide +kernel
  cases taker with
  | attached handler =>
      have htitle := isPrintable_padded (Level.isPrintable_title record.level) 8
      have hhead := ((htime.append hbar).append htitle).append hbar
      exact ⟨_, ((hhead.append (hloggers _ h.logger)).append hbar).append h.printable,
        record.plain_line time⟩
  | lastResort => exact ⟨_, h.printable, rfl⟩

end Taker

end Log

open Log (Taker)

namespace Session

variable {s : Session} {record : Record} {records : List Record} {sink : Sink}

/-! ### What takes a record -/

/-- What takes a record in a session: the handlers of `Registry.handlersFor`, or the last resort. -/
def takers (record : Record) (s : Session) : List Taker :=
  if s.registry.admits record.logger record.level then
    if (s.registry.handlersOf record.logger).isEmpty then
      if Log.Level.warning ≤ record.level then [.lastResort] else []
    else (s.registry.handlersFor record.logger record.level).map .attached
  else []

/-- `log` is what the `takers` write, and a decision. -/
theorem log_eq (record : Record) (s : Session) :
    log record s =
      (s.takers record).foldl (fun s taker => taker.write record s)
        { s with registry := s.registry.settle record.logger record.level } := by
  rw [log, takers]
  split
  · rw [deliver, Log.Registry.handlersFor, Log.Registry.handlersOf_settle]
    split
    · split <;> rfl
    · rw [List.foldl_map]
      rfl
  · rfl

/-- **The `takers` of a record do not hang on the records before it.** -/
theorem takers_log (record before : Record) (s : Session) :
    (log before s).takers record = s.takers record := by
  simp only [takers, registry_log, Log.Registry.admits_settle, Log.Registry.handlersFor,
    Log.Registry.handlersOf_settle]

/-! ### Several records -/

/-- Records are logged one after another, by `log`. -/
def logAll (records : List Record) (s : Session) : Session :=
  records.foldl (fun s record => log record s) s

theorem logAll_append (first second : List Record) (s : Session) :
    logAll (first ++ second) s = logAll second (logAll first s) :=
  List.foldl_append

/-- `logAll` works on the log only. -/
theorem sameButLog_logAll (records : List Record) (s : Session) :
    SameButLog s (logAll records s) := by
  induction records generalizing s with
  | nil => exact SameButLog.refl s
  | cons record rest ih => exact (sameButLog_log record s).trans (ih (log record s))

/-- All `takers` of some records, with the records, in the order in which they write. -/
def acceptances (records : List Record) (s : Session) : List (Taker × Record) :=
  records.flatMap fun record => (s.takers record).map fun taker => (taker, record)

/-- The texts that are written to one `Sink`. -/
def written (sink : Sink) (time : String) (accepted : List (Taker × Record)) : List String :=
  (accepted.filter fun a => a.1.sink = sink).map fun a => a.1.line time a.2

/-- What there is at one `Sink`. Standard error counts as the bytes of its text. -/
def received (s : Session) : Sink → List UInt8
  | .console => encode s.errors.toList
  | .file location => (s.files.content? location).getD []

/-- `printError` adds to no file. -/
theorem received_printError (text : String) (s : Session) (sink : Sink) :
    (s.printError text).received sink =
      s.received sink ++ if .console = sink then encode text.toList else [] := by
  cases sink with
  | console =>
      rw [if_pos rfl, received, received, ← Text.Utf8.encode_append, ← String.toList_append]
      rfl
  | file location =>
      rw [if_neg (by simp), List.append_nil]
      rfl

/-- `Files.extend` adds to no other file, and not to standard error. -/
theorem received_extend (location : Location) (bytes : List UInt8) (s : Session) (sink : Sink) :
    received { s with files := s.files.extend location bytes } sink =
      s.received sink ++ if .file location = sink then bytes else [] := by
  cases sink with
  | console =>
      rw [if_neg (by simp), List.append_nil]
      rfl
  | file other =>
      rw [received, Files.extend]
      by_cases hsame : other = location
      · rw [hsame, if_pos rfl, Files.content?_store_self]
        rfl
      · rw [Files.content?_store_of_ne hsame, if_neg fun h => hsame (Sink.file.inj h).symm,
          List.append_nil]
        rfl

/-- `Taker.write` adds a line with `HasNoHalf` to the place where it is written, and to no other. -/
theorem received_write (h : (record.line s.time).HasNoHalf) (taker : Taker) (sink : Sink) :
    (taker.write record s).received sink =
      s.received sink ++
        if taker.sink = sink then encode (taker.line s.time record).toList else [] := by
  cases taker with
  | lastResort => exact received_printError _ s sink
  | attached handler =>
      obtain ⟨own, level⟩ := handler
      cases own with
      | console => exact received_printError _ s sink
      | file location =>
          rw [Taker.write, writeRecord_file h]
          exact received_extend location _ s sink

/-- `Taker.write` works on the log only. -/
theorem sameButLog_write (record : Record) (s : Session) (taker : Taker) :
    SameButLog s (taker.write record s) := by
  cases taker with
  | attached handler => exact sameButLog_writeRecord record s handler.sink
  | lastResort => exact ⟨rfl, rfl, rfl, rfl⟩

/-- Takers add their lines to the places where they write, by `Taker.write`. -/
theorem received_foldl_write (h : (record.line s.time).HasNoHalf) (takers : List Taker)
    (sink : Sink) :
    (takers.foldl (fun s taker => taker.write record s) s).received sink =
      s.received sink ++ encode (String.join
        (written sink s.time (takers.map fun taker => (taker, record)))).toList := by
  induction takers generalizing s with
  | nil =>
      show s.received sink = s.received sink ++ []
      rw [List.append_nil]
  | cons taker rest ih =>
      have htime := (sameButLog_write record s taker).time
      rw [List.foldl_cons, ih (htime.symm ▸ h), received_write h, htime, List.append_assoc,
        List.map_cons]
      by_cases hsink : taker.sink = sink
      · rw [if_pos hsink, written, written, List.filter_cons_of_pos (by simpa using hsink),
          List.map_cons, String.join_cons, String.toList_append, Text.Utf8.encode_append]
      · rw [if_neg hsink, written, written, List.filter_cons_of_neg (by simpa using hsink)]
        rfl

/-- **What `log` adds** to a place, if the line has `HasNoHalf`: the lines of those that take the
record and write there. -/
theorem received_log (h : (record.line s.time).HasNoHalf) (sink : Sink) :
    (log record s).received sink =
      s.received sink ++
        encode (String.join (written sink s.time (s.acceptances [record]))).toList := by
  let settled : Session := { s with registry := s.registry.settle record.logger record.level }
  rw [log_eq, received_foldl_write (s := settled) h, acceptances, List.flatMap_singleton]
  rfl

/-- `log` before other records changes nothing about what takes those. -/
theorem acceptances_log (records : List Record) (before : Record) (s : Session) :
    (log before s).acceptances records = s.acceptances records := by
  simp only [acceptances, takers_log]

/-- `written` by some takers and then by others. -/
theorem written_append (sink : Sink) (time : String) (first second : List (Taker × Record)) :
    written sink time (first ++ second) = written sink time first ++ written sink time second := by
  rw [written, List.filter_append, List.map_append, written, written]

/-- **What `logAll` adds** to a place. The induction is on the records. -/
theorem received_logAll (h : ∀ record ∈ records, (record.line s.time).HasNoHalf) (sink : Sink) :
    (logAll records s).received sink =
      s.received sink ++
        encode (String.join (written sink s.time (s.acceptances records))).toList := by
  induction records generalizing s with
  | nil =>
      show s.received sink = s.received sink ++ []
      rw [List.append_nil]
  | cons record rest ih =>
      have hboth : s.acceptances (record :: rest) =
          s.acceptances [record] ++ s.acceptances rest := by
        rw [acceptances, List.flatMap_cons, acceptances, List.flatMap_singleton, acceptances]
      have htime := (sameButLog_log record s).time
      have hrest : ∀ other ∈ rest, (other.line (log record s).time).HasNoHalf :=
        fun other hother => htime.symm ▸ h other (List.mem_cons_of_mem _ hother)
      show (logAll rest (log record s)).received sink = _
      rw [ih hrest, received_log (h record List.mem_cons_self), htime, acceptances_log, hboth,
        written_append, String.join_append, String.toList_append, Text.Utf8.encode_append,
        List.append_assoc]

/-- Nothing has been written from one session to another. -/
structure Quiet (s after : Session) : Prop where
  time : after.time = s.time
  received : ∀ sink, after.received sink = s.received sink

theorem Quiet.refl (s : Session) : Quiet s s :=
  ⟨rfl, fun _ => rfl⟩

/-- `Quiet` allows for other settings and loggers. -/
theorem Quiet.setConfig (s₁ : Session) (config : Config) (h : Quiet s s₁) :
    Quiet s { s₁ with config } :=
  ⟨h.time, h.received⟩

theorem Quiet.setRegistry (s₁ : Session) (registry : Log.Registry) (h : Quiet s s₁) :
    Quiet s { s₁ with registry } :=
  ⟨h.time, h.received⟩

/-- `Quiet` allows for a log file that is opened, and made if it is not there. -/
theorem Quiet.openFile (s₁ : Session) (location : Location) (h : Quiet s s₁) :
    Quiet s { s₁ with files := s₁.files.extend location [] } := by
  refine ⟨h.time, fun sink => ?_⟩
  rw [received_extend, h.received sink]
  split <;> exact List.append_nil _

/-- Some records **come out as lines** in a session: their messages are printable, with no
`Sign.half` in them, everything that takes one of them writes one line, each place gets its lines
and nothing else, and there are as many lines as times that a record is taken for that place. -/
structure LogsLines (records : List Record) (s : Session) : Prop where
  printable : ∀ record ∈ records, record.message.HasNoHalf ∧ IsPrintable record.message.plain
  isLine : ∀ accepted ∈ s.acceptances records,
    IsLine (accepted.1.line s.time accepted.2)
  received : ∀ sink, (logAll records s).received sink =
    s.received sink ++
      encode (String.join (written sink s.time (s.acceptances records))).toList
  count : ∀ sink,
    Text.countLineEnds (String.join (written sink s.time (s.acceptances records))) =
      (s.acceptances records).countP fun accepted => accepted.1.sink = sink

/-- **Records with `Record.IsPrintable` come out as lines.** -/
theorem logsLines (htime : IsPrintable s.time) (h : ∀ record ∈ records, record.IsPrintable) :
    LogsLines records s := by
  have hlines : ∀ accepted ∈ s.acceptances records,
      IsLine (accepted.1.line s.time accepted.2) := fun accepted hmem => by
    obtain ⟨record, hrecord, hmem⟩ := List.mem_flatMap.mp hmem
    obtain ⟨taker, -, rfl⟩ := List.mem_map.mp hmem
    exact taker.isLine htime (h record hrecord)
  refine ⟨fun record hmem => ⟨(h record hmem).message, (h record hmem).printable⟩, hlines,
    received_logAll fun record hmem => (h record hmem).hasNoHalf_line s.time, fun sink => ?_⟩
  rw [Text.countLineEnds_join, written, List.length_map, ← List.countP_eq_length_filter]
  intro line hline
  obtain ⟨accepted, hmem, rfl⟩ := List.mem_map.mp hline
  exact hlines accepted (List.mem_filter.mp hmem).1

end Session

/-! ### Reading and compiling -/

namespace Preset

/-- The record of `Preset.parse`, which is on its note. -/
def parseRecords (text : Text) : List Record :=
  match parse text with
  | .ok preset =>
    [⟨Log.Level.debug, "ffmpeg_preset.preset.parser", preset.parseNote text⟩]
  | .error _ => []

/-- The record of `Preset.compile`, which is on its warning. -/
def compileRecords (p : Preset) : List Record :=
  match p.compile with
  | .unsplit text fault =>
    [⟨Log.Level.warning, "ffmpeg_preset.preset.compiler", unsplitNote text fault⟩]
  | _ => []

/-- `shownPart` is printable. -/
theorem isPrintable_shownPart (part : Option Member) : IsPrintable (shownPart part) := by
  cases part with
  | none => decide +kernel
  | some member =>
      rcases member with c | a | q
      · cases c <;> decide +kernel
      · cases a <;> decide +kernel
      · cases q <;> decide +kernel

/-- `shown` is printable, since the arguments are quoted. -/
theorem isPrintable_shown (p : Preset) : IsPrintable p.shown := by
  have hclose : IsPrintable ")" := by decide +kernel
  cases p with
  | predefined codec accelerator quality =>
      have hcodec : IsPrintable ("PredefinedPreset(codec=" ++ shownPart (codec.map .codec)) :=
        IsPrintable.append (by decide +kernel) (isPrintable_shownPart _)
      have haccelerator := (hcodec.append (t := ", hwaccel=") (by decide +kernel)).append
        (isPrintable_shownPart (accelerator.map .accelerator))
      have hquality := (haccelerator.append (t := ", quality=") (by decide +kernel)).append
        (isPrintable_shownPart (quality.map .quality))
      exact hquality.append hclose
  | custom arguments =>
      cases arguments with
      | none => decide +kernel
      | some text =>
          have hopen : IsPrintable "CustomPreset(args=" := by decide +kernel
          exact (hopen.append (Text.isPrintable_quoted text)).append hclose

/-- `parseNote` is printable, since the text is quoted. -/
theorem isPrintable_parseNote (p : Preset) (text : Text) : IsPrintable (p.parseNote text) := by
  have hquoted := Text.isPrintable_quoted text
  cases p with
  | predefined codec accelerator quality =>
      have hread : IsPrintable "解析预设 " := by decide +kernel
      have hcolon : IsPrintable ": " := by decide +kernel
      exact ((hread.append hquoted).append hcolon).append (isPrintable_shown _)
  | custom arguments => exact IsPrintable.append (by decide +kernel) hquoted

/-- `unsplitNote` is printable, since the arguments are quoted. -/
theorem isPrintable_unsplitNote (text : Text) (fault : Shell.SplitFault) :
    IsPrintable (unsplitNote text fault) := by
  have hunsplit : IsPrintable "无法解析自定义参数 " := by decide +kernel
  have hcolon : IsPrintable ": " := by decide +kernel
  have hfault : IsPrintable fault.message := by cases fault <;> decide +kernel
  exact ((hunsplit.append (Text.isPrintable_quoted text)).append hcolon).append hfault

/-- `parseRecords` are printable. -/
theorem isPrintable_of_mem_parseRecords {text : Text} {record : Record}
    (h : record ∈ parseRecords text) : record.IsPrintable := by
  rw [parseRecords] at h
  split at h
  next preset _ =>
    obtain rfl := List.mem_singleton.mp h
    exact .of_note Session.parser_mem_programLoggers (isPrintable_parseNote preset text)
  next => exact absurd h List.not_mem_nil

/-- `compileRecords` are printable. -/
theorem isPrintable_of_mem_compileRecords {p : Preset} {record : Record}
    (h : record ∈ p.compileRecords) : record.IsPrintable := by
  rw [compileRecords] at h
  split at h
  next text fault _ =>
    obtain rfl := List.mem_singleton.mp h
    exact .of_note Session.compiler_mem_programLoggers (isPrintable_unsplitNote text fault)
  next => exact absurd h List.not_mem_nil

end Preset

namespace Session

/-- `parse` logs `Preset.parseRecords`, and does nothing else to the session. -/
theorem after_parse_text (text : Text) (s : Session) :
    ((parse (.text text)).on s).2 = logAll (Preset.parseRecords text) s := by
  rw [on_parse_text, Preset.parseRecords]
  cases Preset.parse text <;> rfl

/-- `compile` logs `Preset.compileRecords`, and does nothing else to the session. -/
theorem after_compile (p : Preset) (s : Session) :
    ((compile p).on s).2 = logAll p.compileRecords s := by
  rw [on_compile, Preset.compileRecords]
  cases p.compile <;> rfl

end Session

end Transcode
