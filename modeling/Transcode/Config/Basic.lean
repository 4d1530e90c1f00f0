import Transcode.Fault
import Transcode.Value.Printer
import Transcode.Value.Shown

/-!
# Settings

There are four settings. Each has a name, under which a configuration file gives it, a variable of
the environment, and a value for when it is not given at all. A setting may hold any value; the
kind is asked for when the setting is used.

A configuration can also hold values under other names. Nothing uses them, but they are saved with
the rest.

## Main definitions

* `Setting` — the settings, with `Setting.name`, `Setting.environmentName` and `Setting.standard`;
* `Config` — a configuration, with `Config.get`, `Config.put` and `Config.putAll`;
* `Config.assign` — a value is given by a name of any kind;
* `Config.ofEntries` — the configuration of some settings given by name;
* `Config.ofEnvironment` — the configuration that the environment gives.
-/

namespace Transcode

/-- The settings. -/
inductive Setting where
  | program
  | preset
  | logLevel
  | logFile
  deriving DecidableEq, Repr

namespace Setting

/-- Each `Setting`, in the order of their entries. -/
def all : List Setting := [.program, .preset, .logLevel, .logFile]

/-- The name of a setting. -/
def name : Setting → String
  | .program => "ffmpeg_path"
  | .preset => "preset"
  | .logLevel => "log_level"
  | .logFile => "log_file"

/-- The variable of the environment that gives a setting. -/
def environmentName : Setting → String
  | .program => "FP_FFMPEG_PATH"
  | .preset => "FP_PRESET"
  | .logLevel => "FP_LOG_LEVEL"
  | .logFile => "FP_LOG_FILE"

/-- The value of a setting that is not given. -/
def standard : Setting → Value
  | .program => .text "ffmpeg"
  | .preset => .null
  | .logLevel => .text "INFO"
  | .logFile => .null

theorem name_injective {a b : Setting} (h : a.name = b.name) : a = b := by
  cases a <;> cases b <;> first | rfl | exact absurd h (by decide)

/-- The setting of a name, if it is the `Setting.name` of one. -/
def find? (name : Text) : Option Setting :=
  all.find? fun setting => .ofString setting.name == name

end Setting

/-- A configuration: values by name. Those of `Setting.all` are among them from the start. -/
structure Config where
  entries : Entries Text Value := Setting.all.map fun setting => (setting.name, setting.standard)

namespace Config

/-- The value of a setting: the entry of its `Setting.name`. -/
def get (c : Config) (setting : Setting) : Value :=
  (Entries.get? (.ofString setting.name) c.entries).getD setting.standard

/-- A value is given by name, to a `Setting` or to none. -/
def putNamed (name : Text) (value : Value) (c : Config) : Config :=
  ⟨Entries.put name value c.entries⟩

/-- A `Setting` is given a value. -/
def put (setting : Setting) (value : Value) (c : Config) : Config :=
  c.putNamed setting.name value

theorem get_put_self (setting : Setting) (value : Value) (c : Config) :
    (c.put setting value).get setting = value := by
  simp [put, putNamed, get, Entries.get?_put_self]

theorem get_put_of_ne {setting other : Setting} (h : other ≠ setting) (value : Value)
    (c : Config) : (c.put setting value).get other = c.get other := by
  have hn : Text.ofString other.name ≠ .ofString setting.name := fun hn =>
    h (Setting.name_injective (Text.ofString_inj.1 hn))
  simp [put, putNamed, get, Entries.get?_put_of_ne hn]

/-- Values are given by name, one after another, as with `putNamed`. -/
def putAll (entries : List (Text × Value)) (c : Config) : Config :=
  entries.foldl (fun c entry => c.putNamed entry.1 entry.2) c

/-! ### Giving values by name -/

/-- The name that stands for what a configuration is. -/
def className : Text := "__class__"

/-- The name that stands for all entries. -/
def tableName : Text := "__dict__"

/-- The name that stands for what else refers to a configuration. -/
def referenceName : Text := "__weakref__"

/-- The name under which a configuration is saved. -/
def savingName : Text := "to_file"

/-- A value is given by a name of any kind, as with `putNamed` unless the name is one of three. The
`tableName` stands for all entries at once, and the `className` and the `referenceName` cannot be
given a value. -/
def assign (name value : Value) (c : Config) : Except Fault Config :=
  match name with
  | .text name =>
    if name = className then .error (.notClass value.kind)
    else if name = referenceName then .error (.notWritable name)
    else if name = tableName then
      match value with
      | .object entries => .ok ⟨entries⟩
      | value => .error (.notTable value.kind)
    else .ok (c.putNamed name value)
  | name => .error (.notSettingName name.kind)

/-! ### Configurations from elsewhere -/

/-- The name that stands for the configuration itself when settings are given by name. -/
def selfName : Text := "self"

/-- The configuration of some settings given by name, with `Setting.standard` for those that are
not. The first name of no `Setting` is a fault. -/
def ofEntries (entries : List (Text × Value)) : Except Fault Config :=
  match entries.find? fun entry => (Setting.find? entry.1).isNone with
  | some (name, _) =>
    .error (if name = selfName then .reservedSetting name else .unexpectedSetting name)
  | none => .ok (({} : Config).putAll entries)

/-- The value of a setting in the environment, under its `environmentName`. An empty variable gives
an empty text. -/
def inEnvironment (environment : Entries Text Text) (setting : Setting) : Value :=
  match Entries.get? (.ofString setting.environmentName) environment with
  | some t => .text t
  | none => setting.standard

/-- The configuration that the environment gives: `inEnvironment` for each `Setting`. -/
def ofEnvironment (environment : Entries Text Text) : Config :=
  Setting.all.foldl (fun c setting => c.put setting (inEnvironment environment setting)) {}

/-! ### What a configuration looks like -/

/-- The values of `Setting.all` by name. -/
def settings (c : Config) : List (Text × Value) :=
  Setting.all.map fun setting => (setting.name, c.get setting)

/-- The text of a configuration in a file: all its entries as an object, by `Value.write`. -/
def text (c : Config) : List Char :=
  (Value.object c.entries).write

/-- A configuration as messages show it, with `Value.shown` for each setting. -/
def shown (c : Config) : String :=
  "Config("
    ++ Text.join ", " (Setting.all.map fun setting => setting.name ++ "=" ++ (c.get setting).shown)
    ++ ")"

/-- Two configurations have equal settings, by `Value.same`. -/
def same (a b : Config) : Bool :=
  Setting.all.all fun setting => (a.get setting).same (b.get setting)

end Config

end Transcode
