import Transcode.Preset.Basic
import Transcode.Shell.Words

/-!
# Encoder arguments

A preset becomes two lists of arguments: those before the input and those before the output.

A preset of the catalogue's kind sets the quality, if it is not the normal one, then the video
encoder, and copies the sound. With hardware by NVIDIA the input is decoded there too, except for
AV1. H.265 is tagged so that more players take it. AV1 has one hardware encoder, and without it
falls back to the one in software.

A custom preset gives the words of its text. A text that is not made of shell words gives none,
with a warning.

## Main definitions

* `qualityArgument?` — the flag and value that set a quality;
* `Preset.compile` — the arguments of a preset.
-/

namespace Transcode

/-! ### Quality -/

/-- The constant rate factor for a quality; lower is better. -/
def rateFactor? : Codec → Quality → Option String
  | .h264, .lossless => some "18"
  | .h265, .lossless => some "20"
  | .av1, .lossless => some "22"
  | _, .low => some "35"
  | _, .normal => none

/-- The quality on Apple's encoders, which take no rate factor: from 1 to 100, higher is better.
They do not encode AV1. -/
def appleQuality? : Codec → Quality → Option String
  | .h264, .lossless => some "65"
  | .h265, .lossless => some "61"
  | .h264, .low => some "32"
  | .h265, .low => some "32"
  | _, _ => none

/-- The flag and value that set a quality, an `appleQuality?` or a `rateFactor?`. None are needed
for `Quality.normal`, or for none. -/
def qualityArgument? (codec : Codec) (accelerator : Option Accelerator)
    (quality : Option Quality) : Option (String × String) :=
  if accelerator = some .apple ∧ codec ≠ .av1 then
    (quality.bind (appleQuality? codec)).map ("-q:v", ·)
  else (quality.bind (rateFactor? codec)).map ("-crf", ·)

/-! ### Encoders -/

/-- The video encoder of a codec on an accelerator. -/
def videoEncoder : Codec → Option Accelerator → String
  | .h264, none => "libx264"
  | .h264, some .nvidia => "h264_nvenc"
  | .h264, some .amd => "h264_amf"
  | .h264, some .apple => "h264_videotoolbox"
  | .h265, none => "libx265"
  | .h265, some .nvidia => "hevc_nvenc"
  | .h265, some .amd => "hevc_amf"
  | .h265, some .apple => "hevc_videotoolbox"
  | .av1, some .amd => "av1_amf"
  | .av1, _ => "libsvtav1"

/-- The arguments that decode the input on NVIDIA's hardware. -/
def nvidiaDecoding : List Text :=
  ["-hwaccel", "cuda", "-hwaccel_output_format", "cuda", "-c:v", "h264_cuvid"]

/-! ### Presets -/

/-- The arguments around the input. -/
structure Arguments where
  input : List Text
  output : List Text
  deriving DecidableEq, Repr

/-- The arguments of `qualityArgument?` in a row. -/
def qualityArguments (codec : Codec) (accelerator : Option Accelerator)
    (quality : Option Quality) : List Text :=
  match qualityArgument? codec accelerator quality with
  | some (flag, value) => [flag, value]
  | none => []

/-- The arguments that choose the `videoEncoder` and copy the sound. -/
def encoderArguments (codec : Codec) (accelerator : Option Accelerator) : List Text :=
  ["-c:v", videoEncoder codec accelerator, "-c:a", "copy"]

/-- The arguments that tag the output. -/
def tagArguments : Codec → List Text
  | .h265 => ["-tag:v", "hvc1"]
  | _ => []

/-- The arguments of a codec with an accelerator and a quality: those before the input, and those of
the quality, the encoder and the tag. -/
def Arguments.ofParts (codec : Codec) (accelerator : Option Accelerator)
    (quality : Option Quality) : Arguments where
  input := if accelerator = some .nvidia ∧ codec ≠ .av1 then nvidiaDecoding else []
  output :=
    qualityArguments codec accelerator quality ++ encoderArguments codec accelerator
      ++ tagArguments codec

/-- What a preset compiles to: its `Arguments`, or none for a text that cannot be split, or the
fault that it has no codec. -/
inductive Compiled where
  | arguments (a : Arguments)
  | unsplit (text : Text) (fault : Shell.SplitFault)
  | noCodec
  deriving DecidableEq, Repr

/-- What a preset compiles to: `Arguments.ofParts` of a predefined one, and the words that
`Shell.Words.split` finds in a custom one. -/
def Preset.compile : Preset → Compiled
  | .predefined (some codec) accelerator quality =>
    .arguments (Arguments.ofParts codec accelerator quality)
  | .predefined none _ _ => .noCodec
  | .custom none => .arguments ⟨[], []⟩
  | .custom (some text) =>
    match Shell.Words.split text with
    | .ok words => .arguments ⟨[], words⟩
    | .error fault => .unsplit text fault

end Transcode
