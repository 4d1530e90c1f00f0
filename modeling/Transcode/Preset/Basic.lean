import Transcode.Preset.Catalog
import Transcode.Text.Quoted

/-!
# Presets

A preset is either one of the catalogue's kind, a codec with an accelerator and a quality, or
custom: a text of encoder arguments that is handed on as it is.

A preset can also be put together by hand from parts that the catalogue does not combine, down to
one without a codec. Such a preset has a text, and whether it can be encoded is seen when it is.

## Main definitions

* `Preset` — the presets;
* `Preset.text` — the text of a preset, from which the normal quality is left out;
* `Preset.shown` — a preset as messages show it.
-/

namespace Transcode

/-- What to encode to. -/
inductive Preset where
  | predefined (codec : Option Codec) (accelerator : Option Accelerator)
      (quality : Option Quality)
  | custom (arguments : Option Text)
  deriving DecidableEq, Repr

namespace Preset

/-- The preset when none is asked for: both streams are copied. -/
def default : Preset :=
  .custom (some "-c:v copy -c:a copy")

/-- The text of a preset: the `tokenForm` of its members, where `Quality.normal` goes without
saying, or its arguments. -/
def text : Preset → Text
  | .predefined codec accelerator quality =>
    tokenForm codec accelerator (if quality = some .normal then none else quality)
  | .custom arguments => arguments.getD []

/-- A part of a preset as messages show it. -/
def shownPart : Option Member → String
  | some member => member.shown
  | none => "None"

/-- A preset as messages show it: a `shownPart` for each axis, or the arguments `Text.quoted`. -/
def shown : Preset → String
  | .predefined codec accelerator quality =>
    "PredefinedPreset(codec=" ++ shownPart (codec.map .codec)
      ++ ", hwaccel=" ++ shownPart (accelerator.map .accelerator)
      ++ ", quality=" ++ shownPart (quality.map .quality) ++ ")"
  | .custom none => "CustomPreset(args=None)"
  | .custom (some arguments) => "CustomPreset(args=" ++ Text.quoted arguments ++ ")"

end Preset

end Transcode
