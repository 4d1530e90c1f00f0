import Transcode.CommandLine.Switch
import Transcode.Value.Basic

/-!
# Options

The switches of a command line are taken from left to right, each with its value, and make up the
options. A later switch overrides an earlier one. The help switch, and the first thing that is
wrong with a switch, end the reading where they stand; arguments that belong to no switch are
refused only at the end.

## Main definitions

* `Options` — what the command line asks for;
* `Options.parse` — the options of a command line, or why there are none.
-/

namespace Transcode.CommandLine

/-- What the command line asks for. A value that is not given is `Value.null`, and one that is two
hyphens glued to its switch is an empty list. -/
structure Options where
  listPresets : Bool := false
  preset : Value := .null
  input : Value := .null
  output : Value := .null
  config : Value := .null
  logLevel : Value := .null

/-- Why a command line gives no `Options`. -/
inductive Stop where
  | help
  | misuse (m : Misuse)
  deriving DecidableEq, Repr

namespace Options

/-- The value that an argument gives. -/
def valueOf (argument : String) : Value :=
  if argument = "--" then .list [] else .text argument

/-- A `Switch` without a value takes effect. -/
def flag (switch : Switch) (o : Options) : Except Stop Options :=
  match switch with
  | .help => .error .help
  | .listPresets => .ok { o with listPresets := true }
  | _ => .ok o

/-- A `Switch` with its value takes effect. -/
def assign (switch : Switch) (argument : String) (o : Options) : Except Stop Options :=
  let value := valueOf argument
  match switch with
  | .preset => .ok { o with preset := value }
  | .input => .ok { o with input := value }
  | .output => .ok { o with output := value }
  | .config => .ok { o with config := value }
  | .logLevel =>
    if argument = "--" ∨ levelChoices.contains argument then .ok { o with logLevel := value }
    else .error (.misuse (.notAChoice switch argument levelChoices))
  | .help | .listPresets => .ok o

/-! ### Glued letters -/

/-- The switches that glued letters stand for: some without a value, and a last one, perhaps with a
value glued to it. -/
structure Cluster where
  flags : List Switch
  last : Switch
  glued : Option String
  deriving DecidableEq, Repr

/-- The `Cluster` of a switch with more glued to it. What is glued to a switch that `takesValue` is
the value; to a short one without, more short switches. -/
def cluster (switch : Switch) (isShort : Bool) : List Char → Except Misuse Cluster
  | [] =>
    if switch.takesValue then .ok ⟨[], switch, some ""⟩ else .error (.valueIgnored switch "")
  | c :: rest =>
    if switch.takesValue then .ok ⟨[], switch, some (String.ofList (c :: rest))⟩
    else if isShort then
      match Switch.find? (String.ofList ['-', c]) with
      | none => .error (.valueIgnored switch (String.ofList (c :: rest)))
      | some next =>
        if rest.isEmpty then .ok ⟨[switch], next, none⟩
        else
          (cluster next true rest).map fun found => { found with flags := switch :: found.flags }
    else .error (.valueIgnored switch (String.ofList (c :: rest)))

/-- The `Cluster` of an argument. -/
def clusterOf (switch : Switch) (isShort : Bool) : Option (List Char) → Except Misuse Cluster
  | none => .ok ⟨[], switch, none⟩
  | some glued => cluster switch isShort glued

/-- Switches without values take effect one after another, by `flag`. -/
def flags (o : Options) : List Switch → Except Stop Options
  | [] => .ok o
  | switch :: rest =>
    match o.flag switch with
    | .error stop => .error stop
    | .ok o => o.flags rest

/-! ### Command lines -/

/-- The arguments from here on take effect, each as `clusterOf` reads it. Those that belong to no
switch are kept in `extra`. -/
def take (o : Options) (extra : List String) : List (String × Argument) → Except Stop Options
  | [] => if extra.isEmpty then .ok o else .error (.misuse (.unrecognized extra))
  | (_, .known switch isShort glued) :: rest =>
    match clusterOf switch isShort glued with
    | .error m => .error (.misuse m)
    | .ok found =>
      match found.glued with
      | some value =>
        match o.flags found.flags with
        | .error stop => .error stop
        | .ok o =>
          match o.assign found.last value with
          | .error stop => .error stop
          | .ok o => o.take extra rest
      | none =>
        if found.last.takesValue then
          match rest with
          | (value, .operand) :: rest =>
            match o.flags found.flags with
            | .error stop => .error stop
            | .ok o =>
              match o.assign found.last value with
              | .error stop => .error stop
              | .ok o => o.take extra rest
          | _ => .error (.misuse (.valueMissing found.last))
        else
          match o.flags (found.flags ++ [found.last]) with
          | .error stop => .error stop
          | .ok o => o.take extra rest
  | (argument, _) :: rest => o.take (extra ++ [argument]) rest

/-- The `Options` of a command line: `classifyAll` tells what its arguments are, and `take` lets
them take effect. -/
def parse (arguments : List String) : Except Stop Options :=
  match Argument.classifyAll arguments with
  | .error m => .error (.misuse m)
  | .ok classified => ({} : Options).take [] classified

end Options

end Transcode.CommandLine
