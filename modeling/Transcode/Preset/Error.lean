import Transcode.Preset.Axis
import Transcode.Text.Split

/-!
# Errors about presets

What can be wrong with a preset or with a name in it, by cause.
-/

namespace Transcode

/-- What is wrong with a preset. -/
inductive PresetError where
  /-- The name is that of no member of the axis. -/
  | notMember (axis : Axis) (name : String)
  /-- A second word for an axis that already has a member. -/
  | repeatedAxis (first second : Member)
  /-- A word that names nothing. -/
  | unknownWord (text word : String)
  /-- No word names a codec. -/
  | noCodec
  /-- The codec does not go with the accelerator. -/
  | unsupported (members : List Member)
  deriving DecidableEq, Repr

/-- An error in words. -/
def PresetError.message : PresetError → String
  | .notMember axis name => name ++ " is not a valid " ++ axis.label
  | .repeatedAxis first second =>
    "cannot use multiple " ++ second.axis.plural ++ " (found " ++ first.name ++ " and "
      ++ second.name ++ ")"
  | .unknownWord text word =>
    "'" ++ text ++ "' is not a valid preset (unknown token '" ++ word ++ "')"
  | .noCodec => "cannot use preset without a codec"
  | .unsupported members =>
    "preset is not supported ("
      ++ Text.join ", " (members.map fun m => m.axis.label ++ " " ++ m.name) ++ ")"

/-- The member of an axis that a name stands for, or `PresetError.notMember`. -/
def Axis.ofName (axis : Axis) (name : String) : Except PresetError Member :=
  match axis.find? name with
  | some member => .ok member
  | none => .error (.notMember axis name)

/-- The codec that a name stands for, or `PresetError.notMember`. -/
def Codec.ofName (name : String) : Except PresetError Codec :=
  match Codec.find? name with
  | some codec => .ok codec
  | none => .error (.notMember .codec name)

/-- The accelerator that a name stands for, or `PresetError.notMember`. -/
def Accelerator.ofName (name : String) : Except PresetError Accelerator :=
  match Accelerator.find? name with
  | some accelerator => .ok accelerator
  | none => .error (.notMember .accelerator name)

/-- The quality that a name stands for, or `PresetError.notMember`. -/
def Quality.ofName (name : String) : Except PresetError Quality :=
  match Quality.find? name with
  | some quality => .ok quality
  | none => .error (.notMember .quality name)

end Transcode
