import Transcode.Text.Quoted
import Transcode.Text.Split
import Transcode.Text.Word

/-!
# Switches

The switches of the command line, and what an argument can be on its own: a switch, an operand, the
mark that ends the switches, or an unknown switch.

A long switch may be shortened as long as no other one begins the same way, and its value may be
glued to it after an equals sign. A short switch may have its value glued to it directly or after an
equals sign. An argument that begins with a hyphen is still an operand if it is a negative number
or, being no switch, holds a blank.

## Main definitions

* `Switch` — the switches, with `Switch.spellings`;
* `Argument.classify` — what an argument is.
-/

namespace Transcode.CommandLine

/-- The levels that can be chosen. -/
def levelChoices : List String := ["DEBUG", "INFO", "WARNING", "ERROR"]

/-- The switches. -/
inductive Switch where
  | help
  | listPresets
  | preset
  | input
  | output
  | config
  | logLevel
  deriving DecidableEq, Repr

namespace Switch

/-- All switches in the order in which they are explained. -/
def all : List Switch := [.help, .listPresets, .preset, .input, .output, .config, .logLevel]

/-- The spellings of a switch. -/
def spellings : Switch → List String
  | .help => ["-h", "--help"]
  | .listPresets => ["--list-presets"]
  | .preset => ["--preset", "-p"]
  | .input => ["--input", "-i"]
  | .output => ["--output", "-o"]
  | .config => ["--config", "-c"]
  | .logLevel => ["--log-level"]

/-- What stands for the value of a switch where the switch is explained, if it takes a value. -/
def valueName? : Switch → Option String
  | .help | .listPresets => none
  | .preset => some "PRESET"
  | .input => some "INPUT"
  | .output => some "OUTPUT"
  | .config => some "CONFIG"
  | .logLevel => some ("\x7b" ++ Text.join "," levelChoices ++ "\x7d")

/-- The switch is followed by a value, which has a `valueName?`. -/
def takesValue (switch : Switch) : Bool :=
  switch.valueName?.isSome

/-- A switch in messages. -/
def shown (switch : Switch) : String :=
  "argument " ++ Text.join "/" switch.spellings

/-- The switch of one of the `spellings`. -/
def find? (spelling : String) : Option Switch :=
  all.find? fun switch => switch.spellings.contains spelling

/-- All `spellings` with their switches. -/
def table : List (String × Switch) :=
  all.flatMap fun switch => switch.spellings.map (·, switch)

end Switch

/-! ### Why a command line is refused -/

/-- What is wrong with a command line. -/
inductive Misuse where
  /-- The shortened switch could be any of some. -/
  | ambiguous (argument : String) (spellings : List String)
  /-- The switch has no value. -/
  | valueMissing (switch : Switch)
  /-- The switch takes no value. -/
  | valueIgnored (switch : Switch) (value : String)
  /-- The value is none of those that the switch takes. -/
  | notAChoice (switch : Switch) (value : String) (choices : List String)
  /-- Arguments that are neither switches nor their values. -/
  | unrecognized (arguments : List String)
  /-- One of the paths is given without the other. -/
  | lonePath
  deriving DecidableEq, Repr

/-- A misuse in words. -/
def Misuse.message : Misuse → String
  | .ambiguous argument spellings =>
    "ambiguous option: " ++ argument ++ " could match " ++ Text.join ", " spellings
  | .valueMissing switch => switch.shown ++ ": expected one argument"
  | .valueIgnored switch value =>
    switch.shown ++ ": ignored explicit argument " ++ Text.quoted value
  | .notAChoice switch value choices =>
    switch.shown ++ ": invalid choice: " ++ Text.quoted value ++ " (choose from "
      ++ Text.join ", " (choices.map fun (choice : String) => Text.quoted choice) ++ ")"
  | .unrecognized arguments => "unrecognized arguments: " ++ Text.join " " arguments
  | .lonePath => "--input 与 --output 需要同时指定"

/-! ### Single arguments -/

/-- What an argument is on its own. -/
inductive Argument where
  | operand
  /-- Two hyphens: everything that follows is an operand. -/
  | endMark
  /-- A switch, spelled with one hyphen or with two, perhaps with a value glued to it. -/
  | known (switch : Switch) (isShort : Bool) (glued : Option (List Char))
  /-- It looks like a switch but is none. -/
  | unknown
  deriving DecidableEq, Repr

namespace Argument

/-- The text is a sign and a decimal number: digits, perhaps with a point before the last ones. A
line feed at the end does not count. -/
def isNegativeNumber (text : List Char) : Bool :=
  let text := if text.getLast? == some '\n' then text.dropLast else text
  match text with
  | '-' :: rest =>
    let whole := rest.takeWhile Text.isDecimalDigit
    match rest.drop whole.length with
    | [] => !whole.isEmpty
    | '.' :: fraction => !fraction.isEmpty && fraction.all Text.isDecimalDigit
    | _ => false
  | _ => false

/-- The argument for a spelling of a switch. -/
def ofSpelling (spelling : String) (switch : Switch) (glued : Option (List Char)) : Argument :=
  .known switch (!"--".toList.isPrefixOf spelling.toList) glued

/-- The switches that a text with a hyphen in front may stand for, by the spellings of
`Switch.table`: with two hyphens, those that begin with it up to an equals sign; with one, the
switch of its first letter, with the rest glued to it. -/
def candidates (text : List Char) : List (String × Argument) :=
  match text with
  | '-' :: '-' :: _ =>
    let (start, glued) :=
      match Text.cutAt? '=' text with
      | some (before, after) => (before, some after)
      | none => (text, none)
    (Switch.table.filter fun entry => start.isPrefixOf entry.1.toList).map fun entry =>
      (entry.1, ofSpelling entry.1 entry.2 glued)
  | '-' :: c :: rest =>
    (Switch.table.filter fun entry => entry.1.toList == ['-', c]).map fun entry =>
      (entry.1, ofSpelling entry.1 entry.2 (some rest))
  | _ => []

/-- The switch that is spelled out, alone or before an equals sign. -/
def spelledOut? (text : List Char) : Option Argument :=
  match Switch.find? (String.ofList text) with
  | some switch => some (ofSpelling (String.ofList text) switch none)
  | none =>
    match Text.cutAt? '=' text with
    | some (before, after) =>
      (Switch.find? (String.ofList before)).map fun switch =>
        ofSpelling (String.ofList before) switch (some after)
    | none => none

/-- What an argument is, unless it is a shortened switch with several `candidates`. -/
def classify (argument : String) : Except Misuse Argument :=
  let text := argument.toList
  match text with
  | '-' :: _ :: _ =>
    if argument = "--" then .ok .endMark
    else
      match spelledOut? text with
      | some found => .ok found
      | none =>
        match candidates text with
        | [(_, found)] => .ok found
        | [] =>
          .ok (if isNegativeNumber text || text.contains ' ' then .operand else .unknown)
        | several => .error (.ambiguous argument (several.map (·.1)))
  | _ => .ok .operand

/-- All arguments with what they are by `classify`. After the `endMark` they are operands. -/
def classifyAll : List String → Except Misuse (List (String × Argument))
  | [] => .ok []
  | argument :: rest =>
    match classify argument with
    | .error misuse => .error misuse
    | .ok .endMark => .ok ((argument, .endMark) :: rest.map (·, .operand))
    | .ok found => (classifyAll rest).map ((argument, found) :: ·)

end Argument

end Transcode.CommandLine
