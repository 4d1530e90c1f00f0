import Transcode.Config.Document
import Transcode.Session.Basic

/-!
# Settings in a session

Loading the configuration starts from the environment and lets a file override what it gives. The
settings of the environment are in force first, so they are what is left when the file is at fault.

A setting, or any other entry of the configuration in force, can also be given a value directly.

## Main definitions

* `Session.load` — the configuration is loaded anew;
* `Session.assign` — an entry of the configuration is given a value;
* `Session.save` — a configuration is saved to a file.
-/

namespace Transcode.Session

/-- The configuration is loaded anew: each setting from `Document.entriesAt` the path, if that gives
it, and otherwise from `Config.ofEnvironment`. -/
def load (path : Value) : Action Config := do
  modify fun s =>
    { s with config := s.config.putAll (Config.ofEnvironment s.environment).settings }
  let entries ← Action.ofExcept (Document.entriesAt (← get).files path)
  modify fun s => { s with config := s.config.putAll entries }
  return (← get).config

/-- An entry of the configuration in force is given a value, by `Config.assign`. -/
def assign (name value : Value) : Action Unit := do
  let config ← Action.ofExcept ((← get).config.assign name value)
  modify fun s => { s with config }

/-- The `Config.text` of a configuration is saved to a file. -/
def save (config : Config) (path : Text) : Action String := do
  match (← get).files.write path (Text.Utf8.encode config.text) with
  | .error fault => throw (.file fault)
  | .ok files =>
    modify fun s => { s with files }
    return String.ofList config.text

end Transcode.Session
