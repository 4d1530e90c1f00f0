import Transcode.Proofs.Session.Logging
import Transcode.Session.Presets

/-!
# Presets in a session, step by step

What reading and compiling a preset come to in a session: the result is that of `Preset.parse` or
`Preset.compile`, whatever the session, and all that is done to the session is one note in its log.

## Main results

* `on_parse_text`, `on_compile` — the result and the session after them;
* `parse_text_eq_ok_iff`, `parse_text_eq_error_iff` — when a text is read and when it is refused;
* `keeps_parse`, `keeps_compile` — that what every record keeps is kept;
* `on_build` — a whole command.
-/

namespace Transcode

open Transcode.Action (Keeps keeps_pure keeps_throw keeps_get keeps_ofExcept on_bind_of_ok)

/-- The arguments that a preset compiles to, if it has a codec or needs none. Custom arguments that
cannot be split are none. -/
def Compiled.arguments? : Compiled → Option Arguments
  | .arguments a => some a
  | .unsplit _ _ => some ⟨[], []⟩
  | .noCodec => none

namespace Session

/-- `note` logs one record. -/
theorem on_note (level : Nat) (logger message : Text) (s : Session) :
    (note level logger message).on s = (.ok (), log ⟨level, logger, message⟩ s) := rfl

/-! ### Reading -/

/-- `parse` of `Value.null` is `Preset.default`, and nothing is done. -/
theorem on_parse_null (s : Session) : (parse .null).on s = (.ok Preset.default, s) := rfl

/-- `parse` leaves a note on what a text was read as; a text that is refused leaves none. -/
theorem on_parse_text (text : Text) (s : Session) :
    (parse (.text text)).on s =
      match Preset.parse text with
      | .error e => (.error (.preset e), s)
      | .ok preset =>
        (.ok preset,
          log ⟨Log.Level.debug, "ffmpeg_preset.preset.parser", preset.parseNote text⟩ s) := by
  rw [parse]
  cases Preset.parse text <;> rfl

/-- `parse` reads a text in some session exactly if `Preset.parse` reads it. -/
theorem parse_text_eq_ok_iff {text : Text} {s : Session} {p : Preset} :
    ((parse (.text text)).on s).1 = .ok p ↔ Preset.parse text = .ok p := by
  rw [on_parse_text]
  cases Preset.parse text <;> simp

/-- `parse` refuses a text in some session exactly if `Preset.parse` does, with a `PresetError`. -/
theorem parse_text_eq_error_iff {text : Text} {s : Session} {e : PresetError} :
    ((parse (.text text)).on s).1 = .error (.preset e) ↔ Preset.parse text = .error e := by
  rw [on_parse_text]
  cases Preset.parse text <;> simp

/-! ### Compiling -/

/-- `compile` gives the arguments, and leaves a warning only of arguments that cannot be split. -/
theorem on_compile (p : Preset) (s : Session) :
    (compile p).on s =
      match p.compile with
      | .arguments arguments => (.ok arguments, s)
      | .unsplit text fault =>
        (.ok ⟨[], []⟩,
          log ⟨Log.Level.warning, "ffmpeg_preset.preset.compiler", unsplitNote text fault⟩ s)
      | .noCodec => (.error .noCodec, s) := by
  rw [compile]
  cases p.compile <;> rfl

/-- `compile` gives some arguments in a session exactly if `Preset.compile` does. -/
theorem compile_eq_ok_iff {p : Preset} {s : Session} {a : Arguments} :
    ((compile p).on s).1 = .ok a ↔ p.compile.arguments? = some a := by
  rw [on_compile]
  cases p.compile <;> simp [Compiled.arguments?]

/-! ### What is kept -/

/-- The reader writes to a logger of the program. -/
theorem parser_mem_programLoggers :
    Text.ofString "ffmpeg_preset.preset.parser" ∈ programLoggers := by decide

/-- So does the compiler. -/
theorem compiler_mem_programLoggers :
    Text.ofString "ffmpeg_preset.preset.compiler" ∈ programLoggers := by decide

/-- The record of a `note` of the program. -/
theorem isProgramRecord_note (level : Nat) {logger : Text} (h : logger ∈ programLoggers)
    (message : String) : IsProgramRecord ⟨level, logger, message⟩ :=
  ⟨h, Text.hasNoHalf_ofString message⟩

/-- `note` keeps what its record keeps. -/
theorem keeps_note {I : Session → Prop} {level : Nat} {logger message : Text}
    (h : ∀ s, I s → I (log ⟨level, logger, message⟩ s)) : Keeps I (note level logger message) :=
  h

section Keeps

variable {I : Session → Prop}
  (hlog : ∀ record, IsProgramRecord record → ∀ s, I s → I (log record s))

include hlog

/-- `parse` keeps what the records of the program keep. -/
theorem keeps_parse (value : Value) : Keeps I (parse value) := by
  cases value with
  | null => exact keeps_pure _
  | text t =>
      rw [parse]
      split
      · exact keeps_throw _
      · exact (keeps_note (hlog _ (isProgramRecord_note _ parser_mem_programLoggers _))).bind
          fun _ => keeps_pure _
  | _ => exact keeps_throw _

/-- `request` keeps what these records keep. -/
theorem keeps_request (asked : PresetRequest) : Keeps I (request asked) := by
  cases asked with
  | text value => exact (keeps_parse hlog value).bind fun _ => keeps_pure _
  | parts codec accelerator quality => exact keeps_ofExcept _
  | arguments value => exact keeps_pure _

/-- `compile` keeps what these records keep. -/
theorem keeps_compile (p : Preset) : Keeps I (compile p) := by
  rw [compile]
  split
  · exact keeps_pure _
  · exact (keeps_note (hlog _ (isProgramRecord_note _ compiler_mem_programLoggers _))).bind
      fun _ => keeps_pure _
  · exact keeps_throw _

/-- `compileRequested` is `compile`, or a fault. -/
theorem keeps_compileRequested (requested : Requested) : Keeps I (compileRequested requested) := by
  cases requested with
  | preset p => exact keeps_compile hlog p
  | unreadable value => exact keeps_throw _

/-- `build` is `compileRequested`, and a look at the settings. -/
theorem keeps_build (requested : Requested) (input output program : Value) :
    Keeps I (build requested input output program) :=
  (keeps_compileRequested hlog requested).bind fun _ => keeps_get.bind fun _ => keeps_pure _

end Keeps

/-! ### Building -/

/-- `build` makes a command from the arguments of the preset, with `Setting.program` unless another
program is given. -/
theorem on_build {p : Preset} {a : Arguments} (h : p.compile.arguments? = some a)
    (input output program : Value) (s : Session) :
    (build (.preset p) input output program).on s =
      (.ok (a.command (program.orElse (s.config.get .program)) input output),
        ((compile p).on s).2) := by
  rw [build, compileRequested, on_bind_of_ok (compile_eq_ok_iff.mpr h), Action.on_bind,
    Action.on_get]
  dsimp only
  rw [Action.on_pure, (keeps_compile SameButLog.programLog p s (SameButLog.refl s)).config]

end Session

end Transcode
