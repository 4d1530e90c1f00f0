import Transcode.Files
import Transcode.Preset.Error
import Transcode.Text.Utf8
import Transcode.Value.Reader

/-!
# Faults

Everything that can stop an operation, by cause. A setting may hold a value of any kind, so many of
the faults say that a value of the wrong kind was used for something.

A fault also has a class. Two groups of classes matter to the program: what is wrong with a preset
is reported as such, and what is wrong with the content of a configuration file makes the file
invalid.

## Main definitions

* `Fault` — the causes, with `Fault.message`;
* `Fault.kind` — the class of a fault, with `FaultKind.isInvalidData`.
-/

namespace Transcode

/-- Everything that can stop an operation. -/
inductive Fault where
  | preset (error : PresetError)
  /-- A text was needed. -/
  | notText (kind : Value.Kind)
  /-- A path was needed. -/
  | notPath (kind : Value.Kind)
  /-- A path was needed, to see whether something is there. -/
  | notTestablePath (kind : Value.Kind)
  /-- Values of two types without an order between them. -/
  | unordered (sign first second : String)
  /-- A value of the kind has no such operation. -/
  | lacks (kind : Value.Kind) (operation : String)
  /-- The words of a preset were asked for without a codec being given. -/
  | codecNotGiven
  /-- A preset without a codec cannot be encoded. -/
  | noCodec
  /-- Names that are no settings. -/
  | unknownSettings (names : List Text)
  /-- A setting given by a name that is none. -/
  | unexpectedSetting (name : Text)
  /-- A setting given by the name that stands for the configuration itself. -/
  | reservedSetting (name : Text)
  /-- Settings were needed, by name. -/
  | notSettings (kind : Value.Kind)
  /-- The name of a setting has to be a text. -/
  | notSettingName (kind : Value.Kind)
  /-- A configuration cannot be made into something else. -/
  | notClass (kind : Value.Kind)
  /-- Only an object can take the place of all entries of a configuration. -/
  | notTable (kind : Value.Kind)
  /-- A name of a configuration that cannot be given a value. -/
  | notWritable (name : Text)
  /-- A value is in the place of an operation. -/
  | notCallable (kind : Value.Kind)
  /-- A value of the kind holds no names. -/
  | holdsNothing (kind : Value.Kind)
  /-- A value of the kind cannot be among the names. -/
  | notAmongNames (kind : Value.Kind)
  /-- The first of the unknown names is no text. -/
  | nameNotText (kind : Value.Kind)
  /-- The name of a logger has to be a text. -/
  | notLoggerName
  /-- A variable of the environment has a text for its name and for its value. -/
  | notVariable (kind : Value.Kind)
  /-- The name of a variable of the environment holds an equals sign. -/
  | signInVariable
  /-- The name of a variable of the environment is empty. -/
  | namelessVariable
  /-- No level has the name. -/
  | unknownLevelName (name : String)
  /-- The name stands for a text, which is no level. -/
  | levelIsText (text : String)
  /-- The name stands for something that is shown so, and is no level. -/
  | levelIsOther (text : String)
  | malformed (fault : Value.ReadFault Text.Position)
  | undecodable (fault : Text.Utf8.Fault)
  | file (fault : FileFault)
  /-- A preset cannot be changed. -/
  | frozen (field : Text)
  deriving DecidableEq, Repr

namespace Fault

/-- A fault in words. -/
def message : Fault → String
  | .preset error => error.message
  | .notText kind => "expected string or bytes-like object, got '" ++ kind.name ++ "'"
  | .notPath kind => "expected str, bytes or os.PathLike object, not " ++ kind.name
  | .notTestablePath kind =>
    "stat: path should be string, bytes, os.PathLike or integer, not " ++ kind.name
  | .unordered sign first second =>
    "'" ++ sign ++ "' not supported between instances of '" ++ first ++ "' and '" ++ second ++ "'"
  | .lacks kind operation =>
    "'" ++ kind.name ++ "' object has no attribute '" ++ operation ++ "'"
  | .codecNotGiven => "token_form() missing 1 required positional argument: 'codec'"
  | .noCodec => "None"
  | .unknownSettings names => "未知配置项: " ++ Text.join ", " (names.map Text.plain)
  | .unexpectedSetting name =>
    "Config.__init__() got an unexpected keyword argument '" ++ name.plain ++ "'"
  | .reservedSetting name =>
    "Config.__init__() got multiple values for argument '" ++ name.plain ++ "'"
  | .notSettings kind =>
    "ffmpeg_preset.utils.config.Config() argument after ** must be a mapping, not " ++ kind.name
  | .notSettingName kind => "attribute name must be string, not '" ++ kind.name ++ "'"
  | .notClass kind => "__class__ must be set to a class, not '" ++ kind.name ++ "' object"
  | .notTable kind => "__dict__ must be set to a dictionary, not a '" ++ kind.name ++ "'"
  | .notWritable name => "attribute '" ++ name.plain ++ "' of 'Config' objects is not writable"
  | .notCallable kind => "'" ++ kind.name ++ "' object is not callable"
  | .holdsNothing kind => "'" ++ kind.name ++ "' object is not iterable"
  | .notAmongNames kind => "unhashable type: '" ++ kind.name ++ "'"
  | .nameNotText kind => "sequence item 0: expected str instance, " ++ kind.name ++ " found"
  | .notLoggerName => "A logger name must be a string"
  | .notVariable kind => "str expected, not " ++ kind.name
  | .signInVariable => "illegal environment variable name"
  | .namelessVariable => "[Errno 22] Invalid argument"
  | .unknownLevelName name => "module 'logging' has no attribute '" ++ name ++ "'"
  | .levelIsText text => "Unknown level: " ++ Text.quoted text
  | .levelIsOther text => "Level not an integer or a valid string: " ++ text
  | .malformed fault => fault.message
  | .undecodable fault => fault.message
  | .file fault => fault.message
  | .frozen field => "cannot assign to field " ++ Text.quoted field

end Fault

/-- The classes of faults. -/
inductive FaultKind where
  | preset
  | kindOfValue
  | content
  | format
  | encoding
  /-- What has no bytes. -/
  | unencodable
  | operation
  | missingKey
  | missingFile
  | notDirectory
  | isDirectory
  | frozen
  /-- What the system refuses for another reason. -/
  | system
  | overflow
  | depth
  deriving DecidableEq, Repr

/-- The classes of what can be wrong with the content of a configuration file. -/
def FaultKind.isInvalidData : FaultKind → Bool
  | .preset | .kindOfValue | .content | .format | .encoding | .unencodable => true
  | _ => false

/-- The `FaultKind` of a fault. -/
def Fault.kind : Fault → FaultKind
  | .preset _ => .preset
  | .notText _ | .notPath _ | .notTestablePath _ | .unordered .. | .codecNotGiven
  | .unknownSettings _ | .unexpectedSetting _ | .reservedSetting _ | .notSettings _
  | .notSettingName _ | .notClass _ | .notTable _ | .notCallable _ | .holdsNothing _
  | .notAmongNames _ | .nameNotText _ | .notLoggerName | .notVariable _
  | .levelIsOther _ => .kindOfValue
  | .levelIsText _ | .malformed (.tooManyDigits _) | .signInVariable | .file .nullInPath
  | .file .negativeDescriptor => .content
  | .malformed (.malformed ..) => .format
  | .undecodable _ => .encoding
  | .file (.unencodable _) => .unencodable
  | .malformed (.tooDeep _) => .depth
  | .lacks .. | .unknownLevelName _ | .notWritable _ => .operation
  | .noCodec => .missingKey
  | .file (.missing _) => .missingFile
  | .file (.notDirectory _) => .notDirectory
  | .file (.isDirectory _) => .isDirectory
  | .file (.tooLong _) | .file .notOpen | .namelessVariable => .system
  | .file .descriptorTooGreat | .file .descriptorTooSmall => .overflow
  | .frozen _ => .frozen

end Transcode
