import Transcode.Config.Basic
import Transcode.Files
import Transcode.Log.Registry

/-!
# Sessions

A session is everything that one request can leave behind for the next: the environment, the files,
the configuration, the loggers, and what has been written to the two output streams. The time is
the one at the head of log lines.

An action works on a session and may end with a fault. What it did to the session before the fault
stays done.

## Main definitions

* `Session` — the state, with `Session.fresh` for the start;
* `Action` — what can be done with it;
* `Action.attempt` — an action whose fault becomes a result.
-/

namespace Transcode

open Log (Registry)

/-- The state of the program. -/
structure Session where
  files : Files
  time : String
  environment : Entries Text Text := []
  config : Config := {}
  registry : Registry := {}
  /-- What has been written to standard output. -/
  output : String := ""
  /-- What has been written to standard error. -/
  errors : String := ""

/-- Something that is done to a session, and its result or fault. -/
abbrev Action (α : Type) := ExceptT Fault (StateM Session) α

namespace Action

variable {α : Type}

/-- The result and the session after an `Action`. -/
def on (a : Action α) (s : Session) : Except Fault α × Session :=
  (a.run s).run

/-- A value, or its fault, as an `Action`. -/
def ofExcept (e : Except Fault α) : Action α :=
  match e with
  | .ok value => pure value
  | .error fault => throw fault

/-- An action that never faults itself: what the given one ends with becomes its result. -/
def attempt (a : Action α) : Action (Except Fault α) :=
  fun s =>
    match a s with
    | (outcome, s) => (.ok outcome, s)

/-- An action on each item, up to the first fault. -/
def each {β : Type} (items : List β) (a : β → Action Unit) : Action Unit :=
  match items with
  | [] => pure ()
  | item :: rest => do
    a item
    each rest a

/-! ### What actions do to a session -/

variable {β : Type}

@[simp] theorem on_pure (value : α) (s : Session) :
    (pure value : Action α).on s = (.ok value, s) := rfl

@[simp] theorem on_throw (fault : Fault) (s : Session) :
    (throw fault : Action α).on s = (.error fault, s) := rfl

@[simp] theorem on_get (s : Session) : (get : Action Session).on s = (.ok s, s) := rfl

@[simp] theorem on_modify (f : Session → Session) (s : Session) :
    (modify f : Action Unit).on s = (.ok (), f s) := rfl

/-- The second action starts from what the first one left behind, unless that ended with a fault. -/
theorem on_bind (a : Action α) (f : α → Action β) (s : Session) :
    (a >>= f).on s =
      match a.on s with
      | (.ok value, s) => (f value).on s
      | (.error fault, s) => (.error fault, s) := by
  simp only [on, bind, ExceptT.bind, ExceptT.run, ExceptT.mk, StateT.bind]
  cases h : a s with
  | mk outcome after => cases outcome <;> rfl

@[simp] theorem on_ofExcept (e : Except Fault α) (s : Session) : (ofExcept e).on s = (e, s) := by
  cases e <;> rfl

@[simp] theorem on_attempt (a : Action α) (s : Session) :
    a.attempt.on s = (.ok (a.on s).1, (a.on s).2) := rfl

end Action

namespace Session

/-- The loggers of the program, in the order in which they are made. -/
def programLoggers : List Text :=
  ["ffmpeg_preset.preset.compiler", "ffmpeg_preset.preset.parser", "ffmpeg_preset.cli"]

/-- The loggers at the start: the `programLoggers`, with the level and the handler of the standard
settings. -/
def startingRegistry : Registry :=
  programLoggers.foldl
    (fun r name =>
      (r.make name).update name fun _ =>
        { level := Log.Level.info, handlers := [⟨.console, Log.Level.info⟩] }) {}

/-- The session at the start, with `startingRegistry`. -/
def fresh (files : Files) (time : String) : Session :=
  { files, time, registry := startingRegistry }

/-- More text on standard output. -/
def print (text : String) (s : Session) : Session :=
  { s with output := s.output ++ text }

/-- More text on standard error. -/
def printError (text : String) (s : Session) : Session :=
  { s with errors := s.errors ++ text }

/-- The logger of a name is changed, by `Registry.update`. -/
def updateLogger (name : Text) (change : Log.Logger → Log.Logger) (s : Session) : Session :=
  { s with registry := s.registry.update name change }

/-! ### The environment -/

/-- What a variable of the environment is named, or holds, is a text that is a name for the system,
by `Text.SystemName.fault?`. -/
def variableText : Value → Except Fault Text
  | .text t =>
    match Text.SystemName.fault? t with
    | some fault => .error (.file (.unencodable fault))
    | none => .ok t
  | value => .error (.notVariable value.kind)

/-- A variable of the environment is set, if its name and its value are each a `variableText`. -/
def setVariable (name value : Value) : Action Unit := do
  let name ← Action.ofExcept (variableText name)
  let value ← Action.ofExcept (variableText value)
  if name.contains (.char '\x00') || value.contains (.char '\x00') then
    throw (.file .nullInPath)
  if name.contains (.char '=') then throw .signInVariable
  if name.isEmpty then throw .namelessVariable
  modify fun s => { s with environment := Entries.put name value s.environment }

/-- A variable of the environment is taken out. -/
def unsetVariable (name : Value) : Action Unit := do
  let name ← Action.ofExcept (variableText name)
  modify fun s => { s with environment := Entries.remove name s.environment }

end Session

end Transcode
