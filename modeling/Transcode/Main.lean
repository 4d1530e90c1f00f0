import Std.Time.Format
import Transcode.CommandLine.Run
import Transcode.Session.Step

/-!
# The program

The program runs its command line in a session that holds what the command line can reach: the
environment, the configuration file, and the log file. What the session wrote goes to the streams
and to the end of the log file.
-/

namespace Transcode

/-- What is at a path, if anything is. -/
def placedAt (path : String) : IO (Option Placed) := do
  try
    let content ← IO.FS.readBinFile path
    return some (.bytes content.toList)
  catch
    | .inappropriateType .. => return some .directory
    | _ => return none

/-- The file at a path, opened for more text, with a session that knows of it or of what is there
instead. -/
def openedAt (path : String) (s : Session) : IO (Option IO.FS.Handle × Session) := do
  try
    let handle ← IO.FS.Handle.mk path .append
    let known := (s.files.content? (s.files.locate path)).isSome
    return (some handle, if known then s else s.place path (.bytes []))
  catch
    | .inappropriateType .. => return (none, s.place path .directory)
    | _ => return (none, s)

/-- What the command line looks for in the environment. -/
def environmentNow : IO (Entries Text Text) :=
  (CommandLine.widthVariable :: Setting.all.map Setting.environmentName).filterMapM fun name => do
    return (← IO.getEnv name).map fun value => (.ofString name, .ofString value)

/-- The session before a command line, with its configuration file. -/
def sessionNow (arguments : List String) : IO Session := do
  let time ← Std.Time.PlainDateTime.now
  let home ← IO.currentDir
  let s := Session.fresh ⟨Files.components home.toString, [], []⟩
    (time.format "uuuu-MM-dd HH:mm:ss")
  let s := { s with environment := ← environmentNow }
  match CommandLine.Options.parse arguments with
  | .ok { config := .text path, .. } =>
    return match ← placedAt path.plain with
      | some placed => s.place path placed
      | none => s
  | _ => return s

/-- The log file that a command line opens, if it gets so far. A `Sign.half` in its name is left to
the session, which refuses it. -/
def logPath? (arguments : List String) (s : Session) : Option String := do
  let options ← (CommandLine.Options.parse arguments).toOption
  let config ← ((Session.load options.config).on s).1.toOption
  let _ ← (Session.levelOfSetting (config.get .logLevel)).toOption
  match config.get .logFile with
  | .text path => path.string?.filter (!·.isEmpty)
  | _ => none

/-- What has come to the end of the file at a path. -/
def added (path : String) (before after : Session) : ByteArray :=
  let content (s : Session) := (s.files.content? (s.files.locate path)).getD []
  ⟨((content after).drop (content before).length).toArray⟩

/-- A command line is run with `CommandLine.run`. The exit status is its own, or one for a fault. -/
def execute (arguments : List String) : IO UInt32 := do
  let s ← sessionNow arguments
  let path := (logPath? arguments s).getD ""
  let (handle, s) ← if path.isEmpty then pure (none, s) else openedAt path s
  let (outcome, after) := (CommandLine.run arguments).on s
  if let some handle := handle then
    handle.write (added path s after)
  (← IO.getStdout).putStr after.output
  (← IO.getStderr).putStr after.errors
  match outcome with
  | .ok status => return UInt32.ofNat status
  | .error fault =>
    (← IO.getStderr).putStr (fault.message ++ "\n")
    return 1

end Transcode

def main (arguments : List String) : IO UInt32 :=
  Transcode.execute arguments
