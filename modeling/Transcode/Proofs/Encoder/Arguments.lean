import Transcode.Encoder.Command
import Transcode.Proofs.Preset.Language
import Transcode.Proofs.Session.Presets
import Transcode.Proofs.Shell.RoundTrip

/-!
# Arguments of presets that were read

A preset that was read from a string has arguments: it has a codec, or is custom. Their words are
strings again, as splitting adds no signs to a text.

## Main definitions

* `Arguments.HasNoHalf` — arguments whose words are strings;
* `Arguments.words` — the words of a whole command.

## Main results

* `hasNoHalf_ofParts` — the arguments of the catalogue are strings;
* `exists_arguments_of_parse` — the arguments of a preset that was read from a string;
* `command_text` — a command of texts is made of its words.
-/

namespace Transcode

/-- `Text.HasNoHalf` holds of the words of some arguments, which are strings then. -/
def Arguments.HasNoHalf (a : Arguments) : Prop :=
  ∀ word ∈ a.input ++ a.output, word.HasNoHalf

namespace Arguments

/-- `HasNoHalf` holds of the arguments of `ofParts`. -/
theorem hasNoHalf_ofParts (codec : Codec) (accelerator : Option Accelerator)
    (quality : Option Quality) : (ofParts codec accelerator quality).HasNoHalf := by
  have hdecoding : ∀ word ∈ nvidiaDecoding, word.HasNoHalf := by
    simp [nvidiaDecoding, Text.hasNoHalf_ofString]
  have hquality : ∀ word ∈ qualityArguments codec accelerator quality, word.HasNoHalf := by
    rw [qualityArguments]
    split <;> simp [Text.hasNoHalf_ofString]
  have hencoder : ∀ word ∈ encoderArguments codec accelerator, word.HasNoHalf := by
    simp [encoderArguments, Text.hasNoHalf_ofString]
  have htag : ∀ word ∈ tagArguments codec, word.HasNoHalf := by
    cases codec <;> simp [tagArguments, Text.hasNoHalf_ofString]
  intro word hword
  simp only [ofParts, List.mem_append] at hword
  rcases hword with hword | (hword | hword) | hword
  · split at hword
    · exact hdecoding word hword
    · exact absurd hword List.not_mem_nil
  · exact hquality word hword
  · exact hencoder word hword
  · exact htag word hword

/-- The words of a command of texts, in their order. -/
def words (a : Arguments) (program input output : Text) : List Text :=
  program :: .ofString "-y" :: a.input ++ .ofString "-i" :: input :: a.output ++ [output]

/-- A command of texts is made of its words. -/
theorem command_text (a : Arguments) (program input output : Text) :
    a.command (.text program) (.text input) (.text output) =
      (a.words program input output).map .text := by
  simp [command, words]

end Arguments

/-- A preset that `Preset.parse` has read from a string has arguments, and `HasNoHalf` holds of
them. -/
theorem Preset.exists_arguments_of_parse {text : String} {p : Preset}
    (h : parse (.ofString text) = .ok p) :
    ∃ a, p.compile.arguments? = some a ∧ a.HasNoHalf := by
  by_cases hwords : IsWords (.ofString text)
  · obtain ⟨codec, accelerator, quality, rfl, -⟩ := (parse_eq_ok_iff_of_isWords hwords).mp h
    exact ⟨_, rfl, Arguments.hasNoHalf_ofParts codec accelerator (some quality)⟩
  · rw [parse_of_not_isWords hwords] at h
    obtain rfl := Except.ok.inj h
    rw [compile]
    split
    next words hsplit =>
      refine ⟨⟨[], words⟩, rfl, fun word hword => ?_⟩
      exact Shell.Words.hasNoHalf_of_split (Text.hasNoHalf_ofString text) hsplit word hword
    next => exact ⟨⟨[], []⟩, rfl, fun word hword => absurd hword List.not_mem_nil⟩

end Transcode
