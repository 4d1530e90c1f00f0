import Transcode.Preset.Axis
import Transcode.Text.Split

/-!
# The catalogue of presets

Which codec goes with which accelerator, and all presets that can be asked for by name. For every
codec the catalogue lists the codec alone, then with each accelerator, then with each quality, then
with both.

## Main definitions

* `Codec.accelerators` — the accelerators that a codec is supported on;
* `Catalog.entries` — the presets, `Catalog.lines` — the same with a description;
* `tokenForm` — the words of a preset joined by hyphens.
-/

namespace Transcode

/-- The accelerators that a codec is supported on. -/
def Codec.accelerators : Codec → List Accelerator
  | .h264 => Accelerator.all
  | .h265 => Accelerator.all
  | .av1 => [.amd]

/-- The given members' names joined by hyphens, codec first and quality last. -/
def tokenForm (codec : Option Codec) (accelerator : Option Accelerator)
    (quality : Option Quality) : String :=
  Text.join "-"
    ((codec.map Codec.name).toList ++ (accelerator.map Accelerator.name).toList
      ++ (quality.map Quality.name).toList)

/-- A preset of the catalogue: a codec, with one of its `Codec.accelerators` or none, and a quality
or none. -/
structure CatalogEntry where
  codec : Codec
  accelerator : Option Accelerator
  quality : Option Quality
  deriving DecidableEq, Repr

namespace CatalogEntry

/-- What the entry adds to its codec, in words. -/
def details (e : CatalogEntry) : List String :=
  (e.accelerator.map fun a => a.name ++ " hardware acceleration").toList
    ++ (e.quality.map fun q => q.name ++ " video quality/compression").toList

/-- The entry in words. -/
def description (e : CatalogEntry) : String :=
  match e.details with
  | [] => e.codec.name ++ " encoded with default video quality/compression"
  | details => e.codec.name ++ " encoded with " ++ Text.join " and " details

/-- The entry's words joined by hyphens, by `tokenForm`. -/
def tokens (e : CatalogEntry) : String :=
  tokenForm (some e.codec) e.accelerator e.quality

/-- The entry's `tokens` with its `description`. -/
def line (e : CatalogEntry) : String :=
  e.tokens ++ " (" ++ e.description ++ ")"

end CatalogEntry

namespace Catalog

/-- The entries of one codec. -/
def entriesOf (codec : Codec) : List CatalogEntry :=
  ⟨codec, none, none⟩
    :: codec.accelerators.map (fun a => ⟨codec, some a, none⟩)
    ++ Quality.all.map (fun q => ⟨codec, none, some q⟩)
    ++ codec.accelerators.flatMap fun a => Quality.all.map fun q => ⟨codec, some a, some q⟩

/-- The `entriesOf` each codec in order. -/
def entries : List CatalogEntry :=
  Codec.all.flatMap entriesOf

/-- The `line` of each entry. -/
def lines : List String :=
  entries.map CatalogEntry.line

/-- Some of the `entries` has the codec and the accelerator, and a quality or none as asked for.
Which quality it is does not matter. -/
def supports (codec : Codec) (accelerator : Option Accelerator) (hasQuality : Bool) : Bool :=
  entries.any fun e =>
    e.codec == codec && e.accelerator == accelerator && e.quality.isSome == hasQuality

end Catalog

end Transcode
