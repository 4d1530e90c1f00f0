import Transcode.Config.Basic
import Transcode.Files

/-!
# Configuration files

A configuration file holds an object in JSON whose names are those of settings. The names are
checked when the file is read, and all that are unknown are told at once. What the names are is
asked of any kind of value that holds something: the names of an object, the items of a list, the
signs of a text. A list or a text that passes is found out only when its values are used.

## Main definitions

* `Document.ofBytes` — the value that a file holds, with its names checked;
* `Document.read` — the same for the file at a path;
* `Config.ofFile` — the configuration of a file alone;
* `Document.entriesAt` — what a file adds to a configuration, nothing if there is none.
-/

namespace Transcode

namespace Document

/-! ### Names -/

/-- The value is a `Value.list` or a `Value.object`, which is no name and cannot be looked for among
names. -/
def isCollection : Value → Bool
  | .list _ | .object _ => true
  | _ => false

/-- The names that a value holds: the items of a `Value.list`, the names in a `Value.object`, the
signs of a `Value.text`. -/
def names : Value → Except Fault (List Value)
  | .object entries => .ok (entries.map fun entry => .text entry.1)
  | .text t => .ok (t.map fun sign => .text [sign])
  | .list items =>
    match items.find? isCollection with
    | some item => .error (.notAmongNames item.kind)
    | none => .ok items
  | value => .error (.holdsNothing value.kind)

/-- The `Setting.name` of some setting. -/
def isKnown : Value → Bool
  | .text t => (Setting.find? t).isSome
  | _ => false

/-! ### Unknown names -/

/-- The text of a name that is one. -/
def text? : Value → Option Text
  | .text t => some t
  | _ => none

/-- Two names have an order: both are texts, or both are numbers by `Value.isNumber`. -/
def ordered : Value → Value → Bool
  | .text _, .text _ => true
  | a, b => a.isNumber && b.isNumber

/-- The least of some numbers by `Value.lessNumber`, the first of several. -/
def least (number : Value) : List Value → Value
  | [] => number
  | other :: rest => least (if other.lessNumber number then other else number) rest

/-- What is wrong with some names, of which no two are the `Value.same`. The fault lists them in
their order, so they need one (`ordered`), and have to be texts. -/
def refusal? : List Value → Option Fault
  | [] => none
  | first :: rest =>
    match rest.find? fun name => !ordered first name with
    | some name => some (.unordered "<" name.kind.name first.kind.name)
    | none =>
      match first with
      | .text t => some (.unknownSettings ((t :: rest.filterMap text?).mergeSort Text.notAfter))
      | number => some (.nameNotText (least number rest).kind)

/-- The value, if all its `names` are those of settings. -/
def check (value : Value) : Except Fault Value :=
  match names value with
  | .error fault => .error fault
  | .ok names =>
    match refusal? ((names.filter fun name => !isKnown name).eraseDupsBy Value.same) with
    | some fault => .error fault
    | none => .ok value

/-! ### Reading -/

/-- The value that a file holds: `Text.Utf8.decode` gives its text, `Value.read` the value that this
spells once its line ends are unified, and `check` lets that through. -/
def ofBytes (bytes : List UInt8) : Except Fault Value :=
  match Text.Utf8.decode bytes with
  | .error fault => .error (.undecodable fault)
  | .ok text =>
    match Value.read (Text.unifyLineEnds text) with
    | .error fault => .error (.malformed fault)
    | .ok value => check value

/-- The value that the file at a path holds, by `ofBytes`. -/
def read (files : Files) (path : Text) : Except Fault Value :=
  match files.read path with
  | .error fault => .error (.file fault)
  | .ok bytes => ofBytes bytes

/-- The entries of the file at a path, if the path counts as given and `Files.has` finds something
there, and none otherwise. A number is the descriptor of a file, but none is open. -/
def entriesAt (files : Files) (path : Value) : Except Fault (List (Text × Value)) :=
  if path.isEmpty then .ok []
  else
    match path with
    | .text t =>
      if files.has t then
        match read files t with
        | .error fault => .error fault
        | .ok (.object entries) => .ok entries
        | .ok value => .error (.lacks value.kind "items")
      else .ok []
    | .bool _ => .ok []
    | .int n =>
      if Files.maxDescriptor < n then .error (.file .descriptorTooGreat)
      else if n < Files.minDescriptor then .error (.file .descriptorTooSmall)
      else .ok []
    | value => .error (.notTestablePath value.kind)

end Document

/-- The configuration of a file alone: `Config.ofEntries` of what it holds. -/
def Config.ofFile (files : Files) (path : Text) : Except Fault Config :=
  match Document.read files path with
  | .error fault => .error fault
  | .ok (.object entries) => Config.ofEntries entries
  | .ok value => .error (.notSettings value.kind)

end Transcode
