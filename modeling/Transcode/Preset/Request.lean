import Transcode.Encoder.Arguments
import Transcode.Fault
import Transcode.Preset.Parser

/-!
# Asking for presets

A preset is asked for by its text, by its parts, or as custom arguments. Whoever asks may give a
value of any kind for any of these. A custom preset keeps whatever it is given, and only its use
shows whether that is a text.

## Main definitions

* `PresetRequest` — what is asked for;
* `Requested` — a preset, or custom arguments that are no text.
-/

namespace Transcode

/-- What is asked for. A part may be left out, which is not the same as null. -/
inductive PresetRequest where
  | text (text : Value)
  | parts (codec : Value) (accelerator quality : Option Value)
  | arguments (arguments : Option Value)

/-- A preset, or custom arguments that are no text. -/
inductive Requested where
  | preset (p : Preset)
  | unreadable (arguments : Value)

/-- The member that a value names by a text, or none for `Value.null`. -/
def memberOf? {α : Type} (ofName : String → Except PresetError α) : Value → Except Fault (Option α)
  | .null => .ok none
  | .text name =>
    match ofName name.plain with
    | .ok member => .ok (some member)
    | .error e => .error (.preset e)
  | value => .error (.lacks value.kind "lower")

/-- The member that a value names by a text. -/
def memberOf {α : Type} (ofName : String → Except PresetError α) : Value → Except Fault α
  | .text name => (ofName name.plain).mapError .preset
  | value => .error (.lacks value.kind "lower")

/-- The three parts of a preset, each perhaps none. -/
structure Parts where
  codec : Option Codec
  accelerator : Option Accelerator
  quality : Option Quality
  deriving DecidableEq, Repr

/-- The `Parts` that values name, by `memberOf?`. -/
def Parts.ofValues (codec accelerator quality : Value) : Except Fault Parts := do
  let codec ← memberOf? Codec.ofName codec
  let accelerator ← memberOf? Accelerator.ofName accelerator
  let quality ← memberOf? Quality.ofName quality
  return ⟨codec, accelerator, quality⟩

/-- The quality argument for parts that values name. There is none without a codec. -/
def qualityArgumentOf (codec accelerator quality : Value) :
    Except Fault (Option (String × String)) := do
  let parts ← Parts.ofValues codec accelerator quality
  match parts.codec with
  | some codec => return qualityArgument? codec parts.accelerator parts.quality
  | none => throw .noCodec

/-- The words, joined by hyphens, of parts that values name. The codec may be null but has to be
given. -/
def tokenFormOf (codec accelerator quality : Option Value) : Except Fault String := do
  let parts ←
    Parts.ofValues (codec.getD .null) (accelerator.getD .null) (quality.getD .null)
  if codec.isNone then throw .codecNotGiven
  return tokenForm parts.codec parts.accelerator parts.quality

namespace Requested

/-- Custom arguments of any kind. -/
def ofArguments : Value → Requested
  | .null => .preset (.custom none)
  | .text t => .preset (.custom (some t))
  | value => .unreadable value

/-- The preset of some `Parts`. A quality that is left out is `Quality.normal`. -/
def ofParts (codec : Value) (accelerator quality : Option Value) : Except Fault Requested :=
  (Parts.ofValues codec (accelerator.getD .null)
      (quality.getD (.text Quality.normal.name))).map
    fun parts => .preset (.predefined parts.codec parts.accelerator parts.quality)

/-- Two presets are equal. -/
def same : Requested → Requested → Bool
  | .preset p, .preset q => p == q
  | .unreadable a, .unreadable b => a.same b
  | _, _ => false

/-- Custom arguments that cannot be told apart from others at once, being a list or an object. -/
def uncountable? : Requested → Option Value.Kind
  | .unreadable (.list _) => some .list
  | .unreadable (.object _) => some .object
  | _ => none

/-- How many presets two presets are. -/
def countDistinct (a b : Requested) : Except Fault Nat :=
  match a.uncountable?, b.uncountable? with
  | some kind, _ | none, some kind => .error (.notAmongNames kind)
  | none, none => .ok (if a.same b then 1 else 2)

end Requested

/-- The fault of giving a preset another value in one of its fields, named by any value. -/
def freezeFault : Value → Fault
  | .text field => .frozen field
  | value => .notSettingName value.kind

end Transcode
