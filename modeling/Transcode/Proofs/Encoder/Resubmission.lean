import Transcode.Proofs.Encoder.Arguments
import Transcode.Proofs.Encoder.CustomArguments

/-!
# Arguments given back as a preset

The arguments behind the input, quoted and joined on one line, are the text of a custom preset that
compiles to the same arguments again, with nothing before the input and without a warning. So what
is shown of a preset can be given back in its place.

A custom preset as such takes any text, but a text that is read might be taken for words joined by
hyphens. The line of a preset of the catalogue's kind cannot: it has several arguments, so there is
a blank in it, and a blank belongs to no word.

## Main definitions

* `Preset.IsEncodable` — the presets that have arguments, said on the preset alone.

## Main results

* `Preset.isEncodable_iff` — these are the presets that compile;
* `Preset.compile_join` — a line of quoted arguments as a custom preset;
* `Preset.parse_join_output` — the line of a preset of the catalogue's kind is read as a custom one;
* `Session.compile_join_output` — both, in a session.
-/

namespace Transcode

/-- `Shell.join` of several arguments holds a blank. -/
theorem Shell.blank_mem_join (argument next : Text) (others : List Text) :
    .char ' ' ∈ Shell.join (argument :: next :: others) := by
  rw [Shell.Words.join_cons_cons]
  exact List.mem_append_right _ List.mem_cons_self

/-- The arguments behind the input are several: the encoder is among them with its switch, whether
or not the quality is. -/
theorem Arguments.exists_output_ofParts (codec : Codec) (accelerator : Option Accelerator)
    (quality : Option Quality) :
    ∃ switch value others,
      (ofParts codec accelerator quality).output = switch :: value :: others := by
  rw [ofParts, qualityArguments]
  cases qualityArgument? codec accelerator quality <;> exact ⟨_, _, _, rfl⟩

namespace Preset

/-- A preset can be encoded if it is custom or has a codec. -/
def IsEncodable : Preset → Prop
  | .predefined codec _ _ => codec.isSome = true
  | .custom _ => True

/-- `Preset.compile` gives arguments for the presets with `IsEncodable`, and for no others. -/
theorem isEncodable_iff {p : Preset} : p.IsEncodable ↔ ∃ a, p.compile.arguments? = some a := by
  match p with
  | .predefined (some codec) accelerator quality => exact iff_of_true rfl ⟨_, rfl⟩
  | .predefined none accelerator quality => simp [IsEncodable, compile, Compiled.arguments?]
  | .custom none => exact iff_of_true trivial ⟨_, rfl⟩
  | .custom (some text) =>
      refine iff_of_true trivial ?_
      rw [compile]
      cases Shell.Words.split text <;> exact ⟨_, rfl⟩

/-- `IsEncodable` holds of a preset that is read from a text. -/
theorem isEncodable_of_parse {text : Text} {p : Preset} (h : parse text = .ok p) :
    p.IsEncodable := by
  cases p with
  | custom arguments => trivial
  | predefined codec accelerator quality =>
      obtain ⟨c, q, rfl, -⟩ := exists_spells_of_parse h
      rfl

/-- **`Shell.join` of some arguments, as a custom preset, compiles to the arguments.** -/
theorem compile_join (arguments : List Text) :
    (custom (some (Shell.join arguments))).compile = .arguments ⟨[], arguments⟩ := by
  rw [compile, Shell.Words.split_join]

/-- A text that holds a sign of no word, other than a hyphen, is not made of words. -/
theorem not_isWords_of_mem {text : Text} {x : Sign} (hmem : x ∈ text) (hhyphen : x ≠ .char '-')
    (hword : x.isWord = false) : ¬ IsWords text := by
  intro hwords
  obtain ⟨piece, hpiece, hx⟩ := (Text.mem_iff_exists_mem_splitAt hhyphen).mp hmem
  rw [(hwords piece hpiece).2 x hx] at hword
  cases hword

/-- `Preset.parse` reads the line of a preset of the catalogue's kind as a custom preset. -/
theorem parse_join_output (codec : Codec) (accelerator : Option Accelerator)
    (quality : Option Quality) :
    let line := Shell.join (Arguments.ofParts codec accelerator quality).output
    parse line = .ok (.custom (some line)) := by
  obtain ⟨switch, value, others, houtput⟩ :=
    Arguments.exists_output_ofParts codec accelerator quality
  have hblank := Shell.blank_mem_join switch value others
  rw [houtput]
  exact parse_of_not_isWords (not_isWords_of_mem hblank (by decide) (by decide))

end Preset

namespace Session

/-- `compile` gives the arguments of a line of quoted ones in every session, and nothing else
happens. -/
theorem on_compile_join (arguments : List Text) (s : Session) :
    (compile (.custom (some (Shell.join arguments)))).on s = (.ok ⟨[], arguments⟩, s) := by
  rw [on_compile, Preset.compile_join]

/-- `parse` reads the line of a preset of the catalogue's kind as a custom preset in every session.
-/
theorem exists_on_parse_join_output (codec : Codec) (accelerator : Option Accelerator)
    (quality : Option Quality) (s : Session) :
    let line := Shell.join (Arguments.ofParts codec accelerator quality).output
    ∃ read, (parse (.text line)).on s = (.ok (.custom (some line)), read) := by
  intro line
  rw [on_parse_text, Preset.parse_join_output]
  exact ⟨_, rfl⟩

/-- **The arguments behind the input can be given back as a preset.** Every preset that can be
encoded has arguments, in any session. Those behind the input, on one line by `Shell.join`, are in
any other session a custom preset with the same arguments behind the input and none before it, and
no record is logged. If the preset is of the catalogue's kind, the line is also read as that custom
preset. -/
theorem compile_join_output {p : Preset} (h : p.IsEncodable) (s s' : Session) :
    ∃ a, ((compile p).on s).1 = .ok a ∧
      (compile (.custom (some (Shell.join a.output)))).on s' = (.ok ⟨[], a.output⟩, s') ∧
      ∀ codec accelerator quality, p = .predefined codec accelerator quality →
        ∃ read, (parse (.text (Shell.join a.output))).on s' =
            (.ok (.custom (some (Shell.join a.output))), read) ∧
          (compile (.custom (some (Shell.join a.output)))).on read =
            (.ok ⟨[], a.output⟩, read) := by
  obtain ⟨a, ha⟩ := Preset.isEncodable_iff.mp h
  refine ⟨a, compile_eq_ok_iff.mpr ha, on_compile_join a.output s', ?_⟩
  rintro codec accelerator quality rfl
  obtain ⟨codec, rfl⟩ := Option.isSome_iff_exists.mp h
  obtain rfl : Arguments.ofParts codec accelerator quality = a := Option.some.inj ha
  obtain ⟨read, hread⟩ := exists_on_parse_join_output codec accelerator quality s'
  exact ⟨read, hread, on_compile_join _ read⟩

/-- An empty argument, both kinds of quotation marks in one argument, a backslash and a line feed;
and a preset with a quality and a tag. -/
theorem compile_join_output_of_marks :
    let s := fresh ⟨[], [], []⟩ ""
    let words : List Text := ["", "it's", "a\"b'c", "d\\", "e\nf"]
    let text : Text := "'' \"it's\" a\\\"b\\'c 'd\\' \"e\nf\""
    let line : Text := "'' 'it'\"'\"'s' 'a\"b'\"'\"'c' 'd\\' 'e\nf'"
    let preset : Preset := .predefined (some .h265) (some .apple) (some .lossless)
    let shown : Text := "-q:v 61 -c:v hevc_videotoolbox -c:a copy -tag:v hvc1"
    (Preset.custom (some text)).IsEncodable ∧ preset.IsEncodable ∧
      ((compile (.custom (some text))).on s).1 = .ok ⟨[], words⟩ ∧
      (compile (.custom (some line))).on s = (.ok ⟨[], words⟩, s) ∧
      ∃ a read, ((compile preset).on s).1 = .ok a ∧
        (parse (.text shown)).on s = (.ok (.custom (some shown)), read) ∧
        (compile (.custom (some shown))).on read = (.ok ⟨[], a.output⟩, read) := by
  intro s words text line preset shown
  have hcustom : (Preset.custom (some text)).IsEncodable := trivial
  have hpreset : preset.IsEncodable := rfl
  have hwords : ((compile (.custom (some text))).on s).1 = .ok ⟨[], words⟩ :=
    compile_eq_ok_iff.mpr (by decide)
  have hline : Shell.join words = line := by decide
  obtain ⟨a, ha, hagain, -⟩ := compile_join_output hcustom s s
  obtain rfl : a = ⟨[], words⟩ := Except.ok.inj (ha.symm.trans hwords)
  obtain ⟨b, hb, -, hread⟩ := compile_join_output hpreset s s
  have hshown : Shell.join b.output = shown := by
    obtain rfl := Option.some.inj (compile_eq_ok_iff.mp hb)
    decide
  obtain ⟨read, hparse, hcompile⟩ := hread _ _ _ rfl
  rw [hshown] at hparse hcompile
  rw [hline] at hagain
  exact ⟨hcustom, hpreset, hwords, hagain, b, read, hb, hparse, hcompile⟩

end Session

end Transcode
