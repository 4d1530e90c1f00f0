import Transcode.Text.Case

/-!
# The axes of a preset

A preset chooses a video codec, perhaps a hardware accelerator, and a quality. Each of these axes
has a few members with canonical lower-case names, listed in an order that is also their rank. A
name given by a user may be in any case.

## Main definitions

* `Codec`, `Accelerator`, `Quality` — the axes as types, each with `all`, `name` and `find?`;
* `Member` — a member of any axis, with `Axis.members` and `Axis.find?`.
-/

namespace Transcode

/-- The video codec to encode to. -/
inductive Codec where
  | h264
  | h265
  | av1
  deriving DecidableEq, Repr

/-- The hardware that encodes. -/
inductive Accelerator where
  | nvidia
  | amd
  | apple
  deriving DecidableEq, Repr

/-- How much quality to keep. The normal quality is the encoder's own default. -/
inductive Quality where
  | lossless
  | normal
  | low
  deriving DecidableEq, Repr

/-- The member whose name is that which a text has in lower case. -/
def findNamed {α : Type} (members : List α) (nameOf : α → String) (name : String) : Option α :=
  members.find? fun member => nameOf member == Text.lower name

namespace Codec

/-- All codecs in their order. -/
def all : List Codec := [.h264, .h265, .av1]

/-- The canonical name. -/
def name : Codec → String
  | .h264 => "h264"
  | .h265 => "h265"
  | .av1 => "av1"

/-- The codec of a name in any case, by `findNamed`. -/
def find? (name : String) : Option Codec :=
  findNamed all Codec.name name

end Codec

namespace Accelerator

/-- All accelerators in their order. -/
def all : List Accelerator := [.nvidia, .amd, .apple]

/-- The canonical name. -/
def name : Accelerator → String
  | .nvidia => "nvidia"
  | .amd => "amd"
  | .apple => "apple"

/-- The accelerator of a name in any case, by `findNamed`. -/
def find? (name : String) : Option Accelerator :=
  findNamed all Accelerator.name name

end Accelerator

namespace Quality

/-- All qualities in their order. -/
def all : List Quality := [.lossless, .normal, .low]

/-- The canonical name. -/
def name : Quality → String
  | .lossless => "lossless"
  | .normal => "normal"
  | .low => "low"

/-- The quality of a name in any case, by `findNamed`. -/
def find? (name : String) : Option Quality :=
  findNamed all Quality.name name

end Quality

/-! ### Members of any axis -/

/-- The three axes. -/
inductive Axis where
  | codec
  | accelerator
  | quality
  deriving DecidableEq, Repr

namespace Axis

/-- All axes, in the order in which presets name them. -/
def all : List Axis := [.codec, .accelerator, .quality]

/-- What a member of the axis is called. -/
def label : Axis → String
  | .codec => "codec"
  | .accelerator => "hardware acceleration"
  | .quality => "preset quality"

/-- What several members of the axis are called. -/
def plural : Axis → String
  | .codec => "codecs"
  | .accelerator => "hardware accelerations"
  | .quality => "preset qualities"

/-- The name of the type of the members in messages. -/
def typeName : Axis → String
  | .codec => "Codec"
  | .accelerator => "HardwareAccelerator"
  | .quality => "Quality"

end Axis

/-- A member of one of the axes: a `Codec`, an `Accelerator` or a `Quality`. -/
inductive Member where
  | codec (c : Codec)
  | accelerator (a : Accelerator)
  | quality (q : Quality)
  deriving DecidableEq, Repr

namespace Member

/-- The `Axis` of a member. -/
def axis : Member → Axis
  | .codec _ => .codec
  | .accelerator _ => .accelerator
  | .quality _ => .quality

/-- The canonical name of a member. -/
def name : Member → String
  | .codec c => c.name
  | .accelerator a => a.name
  | .quality q => q.name

/-- A member as messages show it. Its own name there is the canonical one in capitals. -/
def shown (m : Member) : String :=
  "<" ++ m.axis.typeName ++ "." ++ Text.upper m.name ++ ": '" ++ m.name ++ "'>"

end Member

namespace Axis

/-- The members of an axis in their order. -/
def members : Axis → List Member
  | .codec => Codec.all.map .codec
  | .accelerator => Accelerator.all.map .accelerator
  | .quality => Quality.all.map .quality

/-- The member of an axis that a name in any case stands for, by `findNamed`. -/
def find? (axis : Axis) (name : String) : Option Member :=
  findNamed axis.members Member.name name

/-- Every member is among the `Axis.members` of its axis. -/
theorem mem_members (m : Member) : m ∈ m.axis.members := by
  rcases m with m | m | m <;> cases m <;> decide

end Axis

namespace Member

/-- The rank of a member among the `Axis.members` of its axis. -/
def rank (m : Member) : Nat :=
  m.axis.members.idxOf m

end Member

end Transcode
